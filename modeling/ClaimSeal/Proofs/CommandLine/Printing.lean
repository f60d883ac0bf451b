import ClaimSeal.CommandLine.Program

/-!
**What is printed where no terminal is.**

Of a text all is printed but the sequences that control a terminal: a bracket after the code point
that starts them, parameters, and a letter.  The program finds them from left to right, holding back
what may still become one.  Three laws say what it prints, and there is no other text that they hold
of: nothing is printed of an empty text, a sequence at the front is left out, and whatever else is
at the front is printed.

Main definitions:

* `IsControl` — the sequences that control a terminal.

Main results:

* `echoed_control`, `echoed_cons` — **what is printed of a text**;
* `echoed_eq_self` — a text in which no such sequence can start is printed as it is.
-/

set_option autoImplicit false

namespace ClaimSeal

namespace CommandLine

/-- A sequence that controls a terminal has parameters in brackets and a letter. -/
def IsControl (t : Text) : Prop :=
  ∃ params letter, t = escapePoint :: cp '[' :: (params ++ [letter]) ∧
    (∀ c ∈ params, isParameter c = true) ∧ letter.isAsciiLetter = true

/-- What is held back: a sequence may go on after it. -/
inductive IsStart : Text → Prop
  | escape : IsStart [escapePoint]
  | begun {params : Text} (h : ∀ c ∈ params, isParameter c = true) :
      IsStart (escapePoint :: cp '[' :: params)

/-! ### Code points within a sequence -/

theorem ne_escapePoint_of_isParameter {c : CodePoint} (h : isParameter c = true) :
    c ≠ escapePoint := by
  rintro rfl
  revert h
  decide

theorem ne_escapePoint_of_isAsciiLetter {c : CodePoint} (h : c.isAsciiLetter = true) :
    c ≠ escapePoint := by
  rintro rfl
  revert h
  decide

theorem isParameter_of_isAsciiLetter {c : CodePoint} (h : c.isAsciiLetter = true) :
    isParameter c = false := by
  have hdigit : c.isAsciiDigit = false := by
    simp only [CodePoint.isAsciiLetter, CodePoint.isAsciiDigit, Bool.or_eq_true, Bool.and_eq_true,
      decide_eq_true_eq, Bool.and_eq_false_iff, decide_eq_false_iff_not] at h ⊢
    omega
  have hsemicolon : c ≠ cp ';' := by
    rintro rfl
    revert h
    decide
  have hquestion : c ≠ cp '?' := by
    rintro rfl
    revert h
    decide
  simp [isParameter, hdigit, hsemicolon, hquestion]

/-! ### One step -/

theorem echoedFrom_escape (pending rest : Text) :
    echoedFrom pending (escapePoint :: rest) = pending ++ echoedFrom [escapePoint] rest := by
  rw [echoedFrom, if_pos rfl]

/-- A sequence whose parameters have begun is left out up to its letter. -/
theorem echoedFrom_params {params : Text} (hparams : ∀ c ∈ params, isParameter c = true)
    {letter : CodePoint} (hletter : letter.isAsciiLetter = true) (before rest : Text) :
    echoedFrom (escapePoint :: cp '[' :: before) (params ++ letter :: rest) = echoed rest := by
  induction params generalizing before with
  | nil =>
      rw [List.nil_append, echoedFrom, if_neg (ne_escapePoint_of_isAsciiLetter hletter)]
      simp [isParameter_of_isAsciiLetter hletter, hletter, echoed]
  | cons c params ih =>
      obtain ⟨hc, hparams⟩ := List.forall_mem_cons.1 hparams
      rw [List.cons_append, echoedFrom, if_neg (ne_escapePoint_of_isParameter hc)]
      simp [hc, ih hparams]

theorem echoed_of_ne {c : CodePoint} (h : c ≠ escapePoint) (t : Text) :
    echoed (c :: t) = c :: echoed t := by
  rw [echoed, echoedFrom, if_neg h]
  rfl

/-- What is held back is printed together with the rest if no sequence comes of it. -/
theorem echoedFrom_of_not_control {pending : Text} (hpending : IsStart pending) {t : Text}
    (h : ∀ s, IsControl s → ¬ s <+: pending ++ t) :
    echoedFrom pending t = pending ++ echoed t := by
  -- a sequence is held back until a code point comes that cannot go on with it
  induction t generalizing pending with
  | nil => rw [echoedFrom, echoed, echoedFrom, List.append_nil]
  | cons c t ih =>
      by_cases hc : c = escapePoint
      · subst hc
        rw [echoedFrom_escape, echoed, echoedFrom_escape, List.nil_append]
      · -- `c` goes on with the sequence, ends it, or is none of it
        have hlater (hnext : IsStart (pending ++ [c])) :
            echoedFrom (pending ++ [c]) t = pending ++ echoed (c :: t) := by
          rw [ih hnext (by simpa using h), echoed_of_ne hc t, List.append_assoc,
            List.singleton_append]
        have hnone : pending ++ c :: echoed t = pending ++ echoed (c :: t) := by
          rw [echoed_of_ne hc t]
        cases hpending with
        | escape =>
            rw [echoedFrom, if_neg hc]
            by_cases hbracket : c = cp '['
            · subst hbracket
              simpa using hlater (.begun (List.forall_mem_nil _))
            · simpa [hbracket, echoed] using hnone
        | @begun params hparams =>
            rw [echoedFrom, if_neg hc]
            cases hparam : isParameter c with
            | true =>
                have hstart : IsStart (escapePoint :: cp '[' :: (params ++ [c])) :=
                  .begun (List.forall_mem_append.2 ⟨hparams, List.forall_mem_singleton.2 hparam⟩)
                simpa using hlater hstart
            | false =>
                cases hletter : c.isAsciiLetter with
                | true =>
                    refine absurd ⟨t, ?_⟩ (h _ ⟨params, c, rfl, hparams, hletter⟩)
                    simp
                | false => simpa [hparam, hletter, echoed] using hnone

/-! ### The laws -/

@[simp] theorem echoed_nil : echoed [] = [] := rfl

/-- A sequence that controls a terminal is not printed. -/
theorem echoed_control {s : Text} (h : IsControl s) (t : Text) : echoed (s ++ t) = echoed t := by
  obtain ⟨params, letter, rfl, hparams, hletter⟩ := h
  have hbracket : cp '[' ≠ escapePoint := by decide
  have hstep : echoedFrom [escapePoint] (cp '[' :: (params ++ letter :: t)) =
      echoedFrom [escapePoint, cp '['] (params ++ letter :: t) := by
    rw [echoedFrom, if_neg hbracket]
    rfl
  rw [List.cons_append, List.cons_append, List.append_assoc, List.singleton_append, echoed,
    echoedFrom_escape, List.nil_append, hstep, echoedFrom_params hparams hletter]

/-- All else is printed. -/
theorem echoed_cons {c : CodePoint} {t : Text} (h : ∀ s, IsControl s → ¬ s <+: c :: t) :
    echoed (c :: t) = c :: echoed t := by
  by_cases hc : c = escapePoint
  · subst hc
    rw [echoed, echoedFrom_escape, List.nil_append]
    exact echoedFrom_of_not_control .escape h
  · exact echoed_of_ne hc t

/-- A text in which no sequence can start is printed as it is. -/
theorem echoed_eq_self {t : Text} (h : escapePoint ∉ t) : echoed t = t := by
  induction t with
  | nil => rfl
  | cons c t ih =>
      rw [List.mem_cons, not_or] at h
      rw [echoed_of_ne (Ne.symm h.1), ih h.2]

end CommandLine

end ClaimSeal

import Mathlib.Data.List.TakeDrop
import ClaimSeal.Json.Parser
import ClaimSeal.Json.Printer
import ClaimSeal.Proofs.Digits

/-!
**Literal names and whole numbers are read back.**

The reader tells a literal name by its first letter and takes a number as far as it goes.  So a
whole number is read back if what follows it does not belong to a number.

Main definitions:

* `Json.Stops` — a number does not go on with this text.

Main results:

* `Json.literal?_ofInt` — **a whole number is read back**;
* `Json.literal?_null`, `Json.literal?_bool` — so are the literal names.
-/

set_option autoImplicit false

namespace ClaimSeal

namespace Json

theorem after?_append (lead t : Text) : after? lead (lead ++ t) = some t := by
  induction lead with
  | nil => rfl
  | cons c lead ih => rw [List.cons_append, after?, if_pos rfl, ih]

theorem after?_cons_of_ne {p c : CodePoint} (h : p ≠ c) (lead t : Text) :
    after? (p :: lead) (c :: t) = none := by
  rw [after?, if_neg h]

/-! ### Numbers -/

/-- A number does not go on with this text: no digit, fraction or exponent starts here. -/
def Stops (t : Text) : Prop :=
  ∀ c, t.head? = some c → c.isAsciiDigit = false ∧ c ≠ cp '.' ∧ c ≠ cp 'e' ∧ c ≠ cp 'E'

theorem stops_nil : Stops [] := nofun

theorem stops_cons {c : CodePoint} {t : Text} :
    Stops (c :: t) ↔ c.isAsciiDigit = false ∧ c ≠ cp '.' ∧ c ≠ cp 'e' ∧ c ≠ cp 'E' := by
  simp [Stops]

theorem digitRun_append {ds rest : Text} (hds : ∀ c ∈ ds, c.isAsciiDigit = true)
    (hrest : Stops rest) : digitRun (ds ++ rest) = (ds, rest) := by
  have hnone : rest.takeWhile CodePoint.isAsciiDigit = [] := by
    cases rest with
    | nil => rfl
    | cons c rest => exact List.takeWhile_cons_of_neg (by simp [(stops_cons.1 hrest).1])
  have hall : rest.dropWhile CodePoint.isAsciiDigit = rest := by
    cases rest with
    | nil => rfl
    | cons c rest => exact List.dropWhile_cons_of_neg (by simp [(stops_cons.1 hrest).1])
  rw [digitRun, List.span_eq_takeWhile_dropWhile, List.takeWhile_append_of_pos hds,
    List.dropWhile_append_of_pos hds, hnone, hall, List.append_nil]

theorem fractionPart_of_stops {t : Text} (h : Stops t) : fractionPart t = ([], t) := by
  cases t with
  | nil => rfl
  | cons c t =>
      obtain ⟨_, hpoint, _, _⟩ := stops_cons.1 h
      exact if_neg fun hc => hpoint hc.1

theorem exponentPart_of_stops {t : Text} (h : Stops t) : exponentPart t = (none, t) := by
  cases t with
  | nil => rfl
  | cons c t =>
      obtain ⟨_, _, hlower, hupper⟩ := stops_cons.1 h
      exact if_neg fun hc => hc.elim hlower hupper

theorem wholePart?_digits (n : Nat) {rest : Text} (h : Stops rest) :
    wholePart? (Text.digits 10 n ++ rest) = some (Text.digits 10 n, rest) := by
  obtain ⟨c, others, hdigits, hc, hzero⟩ := Text.digits_eq_cons n
  have hrun := digitRun_append (fun _ => Text.isAsciiDigit_of_mem_digits (n := n)) h
  rw [hdigits, List.cons_append] at hrun ⊢
  rw [wholePart?]
  split
  · next he =>
      -- a first digit that is zero is the only one
      rw [hzero he, Text.digits_of_lt (by decide)] at hdigits
      cases hdigits
      rfl
  · rw [hrun]

/-- Digits are read as the number that they stand for. -/
theorem unsigned?_digits (negative : Bool) (n : Nat) {rest : Text} (h : Stops rest) :
    unsigned? negative (Text.digits 10 n ++ rest) =
      some (.int (if negative then -(n : Int) else n), rest) := by
  unfold unsigned?
  rw [wholePart?_digits n h, Option.bind_eq_bind, Option.bind_some]
  dsimp only
  rw [fractionPart_of_stops h]
  dsimp only
  rw [exponentPart_of_stops h]
  dsimp only
  rw [if_pos ⟨rfl, rfl⟩, Text.toNat_digits]
  rfl

/-! ### Literals -/

/-- The first letters of the literal names. -/
def nameLetters : Text := txt "ntfNI"

/-- What starts like no literal name is read as a number. -/
theorem literal?_of_not_mem {c : CodePoint} (h : c ∉ nameLetters) (t : Text) :
    literal? (c :: t) = number? (c :: t) := by
  have hne : ∀ x ∈ nameLetters, x ≠ c := fun x hx e => h (e ▸ hx)
  have hnone : ∀ x ∈ nameLetters, ∀ lead, after? (x :: lead) (c :: t) = none :=
    fun x hx lead => after?_cons_of_ne (hne x hx) lead t
  unfold literal?
  have hnull : after? (txt "null") (c :: t) = none := hnone _ (by decide) (txt "ull")
  have htrue : after? (txt "true") (c :: t) = none := hnone _ (by decide) (txt "rue")
  have hfalse : after? (txt "false") (c :: t) = none := hnone _ (by decide) (txt "alse")
  have hnan : after? (txt "NaN") (c :: t) = none := hnone _ (by decide) (txt "aN")
  have hinfinity : after? (txt "Infinity") (c :: t) = none := hnone _ (by decide) (txt "nfinity")
  rw [hnull, htrue, hfalse, hnan, hinfinity]

theorem not_mem_nameLetters_of_isAsciiDigit {c : CodePoint} (h : c.isAsciiDigit = true) :
    c ∉ nameLetters := by
  have hletters : nameLetters.all (fun x => !x.isAsciiDigit) = true := by decide
  intro hc
  have hletter := List.all_eq_true.1 hletters c hc
  rw [h] at hletter
  cases hletter

theorem ne_of_isAsciiDigit {c x : CodePoint} (h : c.isAsciiDigit = true)
    (hx : x.isAsciiDigit = false) : c ≠ x := by
  rintro rfl
  rw [hx] at h
  cases h

/-- **A whole number is read back.** -/
theorem literal?_ofInt (i : Int) {rest : Text} (h : Stops rest) :
    literal? (Text.ofInt i ++ rest) = some (.int i, rest) := by
  cases i with
  | ofNat n =>
      obtain ⟨c, others, hdigits, hc, _⟩ := Text.digits_eq_cons n
      have hread := unsigned?_digits false n h
      rw [Text.ofInt, Text.ofIntIn]
      rw [hdigits, List.cons_append] at hread ⊢
      rw [literal?_of_not_mem (not_mem_nameLetters_of_isAsciiDigit hc), number?,
        if_neg (ne_of_isAsciiDigit hc (by decide)), hread]
      rfl
  | negSucc n =>
      obtain ⟨c, others, hdigits, hc, _⟩ := Text.digits_eq_cons (n + 1)
      have hread := unsigned?_digits true (n + 1) h
      have hinfinity : after? (txt "Infinity") (Text.digits 10 (n + 1) ++ rest) = none := by
        rw [hdigits, List.cons_append]
        exact after?_cons_of_ne (ne_of_isAsciiDigit hc (by decide)).symm (txt "nfinity") _
      rw [Text.ofInt, Text.ofIntIn, List.cons_append, literal?_of_not_mem (by decide), number?,
        if_pos rfl, hinfinity]
      exact hread

theorem literal?_null (rest : Text) : literal? (txt "null" ++ rest) = some (.null, rest) := by
  rw [literal?, after?_append]

theorem literal?_bool (b : Bool) (rest : Text) :
    literal? (scalar (.bool b) ++ rest) = some (.bool b, rest) := by
  cases b <;> rfl

end Json

end ClaimSeal

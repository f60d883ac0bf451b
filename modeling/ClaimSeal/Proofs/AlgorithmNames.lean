import ClaimSeal.Proofs.KeySigner.Origin
import ClaimSeal.Proofs.LetterCase
import Mathlib.Data.List.Forall2

/-!
**Which texts name an algorithm.**

A text names an algorithm if it is the algorithm's name with ASCII letters in either case.  The
rule is put through the lower case of the whole of Unicode, which leads into ASCII from KELVIN SIGN
and makes two code points of LATIN CAPITAL LETTER I WITH DOT ABOVE.  Neither matters here: the names
have no k, and the second one of the two code points is beyond ASCII.

Main definitions:

* `CodePoint.SameLetter`, `Text.SameLetters` — texts that differ in the case of ASCII letters alone;
* `Algorithm.Naming` — the laws of naming an algorithm.

Main results:

* `Text.lower_eq_iff_sameLetters` — what has a given text as its lower case;
* `Algorithm.parse_eq_ok_iff_sameLetters` — what names an algorithm;
* `Algorithm.naming` — **an algorithm is named by its name in either case, and by nothing else**.
-/

set_option autoImplicit false

namespace ClaimSeal

namespace CodePoint

/-- A code point is another one, or both are the same ASCII letter in different cases. -/
def SameLetter (c d : CodePoint) : Prop :=
  c = d ∨ c.isAsciiLetter = true ∧ d.isAsciiLetter = true ∧
    (c.val + 32 = d.val ∨ d.val + 32 = c.val)

/-- An ASCII letter or digit. -/
def IsAlphanumeric (c : CodePoint) : Prop := c.isAsciiLetter = true ∨ c.isAsciiDigit = true

instance (c : CodePoint) : Decidable c.IsAlphanumeric := inferInstanceAs (Decidable (_ ∨ _))

theorem isAsciiLetter_iff {c : CodePoint} :
    c.isAsciiLetter = true ↔ 65 ≤ c.val ∧ c.val ≤ 90 ∨ 97 ≤ c.val ∧ c.val ≤ 122 := by
  simp [isAsciiLetter]

theorem val_asciiLower (c : CodePoint) :
    c.asciiLower.val = if 65 ≤ c.val ∧ c.val ≤ 90 then c.val + 32 else c.val := by
  rw [asciiLower]
  split
  · exact val_ofNat (by omega)
  · rfl

/-- Code points are the same but for the case of ASCII letters if lower case makes them the same. -/
theorem sameLetter_iff {c d : CodePoint} : c.SameLetter d ↔ c.asciiLower = d.asciiLower := by
  rw [SameLetter, isAsciiLetter_iff, isAsciiLetter_iff, Fin.ext_iff, Fin.ext_iff, val_asciiLower,
    val_asciiLower]
  split <;> split <;> omega

theorem SameLetter.isAlphanumeric {c d : CodePoint} (h : c.SameLetter d)
    (hc : c.IsAlphanumeric) : d.IsAlphanumeric := by
  rcases h with rfl | ⟨_, hd, _⟩
  · exact hc
  · exact .inl hd

/-- An ASCII letter or digit that is neither a capital nor a k: its lower case is itself, and that
of no code point beyond ASCII. -/
def IsNameLetter (d : CodePoint) : Prop :=
  d.val < 128 ∧ d.asciiLower = d ∧ d ≠ cp 'k' ∧ d.IsAlphanumeric

instance (d : CodePoint) : Decidable d.IsNameLetter :=
  inferInstanceAs (Decidable (_ ∧ _ ∧ _ ∧ _))

theorem IsNameLetter.plainLower_eq_iff {c d : CodePoint} (hd : d.IsNameLetter) :
    c.plainLower = d ↔ d.SameLetter c := by
  obtain ⟨hascii, hlower, hk, _⟩ := hd
  rw [sameLetter_iff, hlower, plainLower, eq_comm]
  refine iteInduction (motive := fun x => d = x ↔ d = c.asciiLower) (fun hc => ?_) fun _ => Iff.rfl
  -- KELVIN SIGN: its lower case is a k, and it is no ASCII letter itself
  refine ⟨fun h => absurd h hk, fun h => ?_⟩
  have hval := congrArg Fin.val h
  rw [val_asciiLower, if_neg (by omega)] at hval
  omega

end CodePoint

namespace Text

open CodePoint

/-- A text differs from another one in the case of ASCII letters alone. -/
def SameLetters (s t : Text) : Prop := List.Forall₂ SameLetter s t

theorem sameLetters_iff {s t : Text} :
    SameLetters s t ↔ s.map asciiLower = t.map asciiLower := by
  have hsame : SameLetter = fun c d => c.asciiLower = d.asciiLower :=
    funext₂ fun c d => propext sameLetter_iff
  rw [← List.forall₂_eq_eq_eq, List.forall₂_map_left_iff, List.forall₂_map_right_iff, SameLetters,
    hsame]

/-- What may stand in a text does not depend on the case of letters. -/
theorem SameLetters.isAlphanumeric {s t : Text} (h : SameLetters s t)
    (hs : ∀ c ∈ s, c.IsAlphanumeric) : ∀ d ∈ t, d.IsAlphanumeric := by
  induction h with
  | nil => exact hs
  | cons hcd _ ih =>
      rw [List.forall_mem_cons] at hs ⊢
      exact ⟨hcd.isAlphanumeric hs.1, ih hs.2⟩

/-- A text has a name in lower case as its own lower case exactly if it differs from it in the case
of ASCII letters alone. -/
theorem lower_eq_iff_sameLetters {n t : Text} (hn : ∀ d ∈ n, d.IsNameLetter) :
    t.lower = n ↔ SameLetters n t := by
  rw [lower_eq_iff fun d hd => (hn d hd).1, SameLetters]
  induction t generalizing n with
  | nil => cases n <;> simp [plainLower]
  | cons c t ih =>
      cases n with
      | nil => simp [plainLower]
      | cons d n =>
          obtain ⟨hd, hn⟩ := List.forall_mem_cons.1 hn
          rw [plainLower_cons, List.cons.injEq, List.forall₂_cons, hd.plainLower_eq_iff, ih hn]

end Text

namespace Algorithm

open Run

/-- The names of the algorithms are made of such letters and digits. -/
theorem isNameLetter_of_mem_name (alg : Algorithm) : ∀ d ∈ alg.name, d.IsNameLetter := by
  have hall : alg.name.all (fun d => d.IsNameLetter) = true := by cases alg <;> decide
  exact fun d hd => of_decide_eq_true (List.all_eq_true.1 hall d hd)

/-- A text names an algorithm exactly if it is the algorithm's name in ASCII letters of either
case. -/
theorem parse_eq_ok_iff_sameLetters {alg : Algorithm} {t : Text} :
    parse (.json (.str t)) = .ok alg ↔ alg.name.SameLetters t := by
  rw [parse_text_eq_ok_iff, ofName?_eq_some_iff, eq_comm]
  exact Text.lower_eq_iff_sameLetters alg.isNameLetter_of_mem_name

/-- What names an algorithm is a text. -/
theorem exists_text_of_parse {alg : Algorithm} {d : Datum} (h : parse d = .ok alg) :
    ∃ t, d = .json (.str t) := by
  unfold parse at h
  split at h
  · exact ⟨_, rfl⟩
  · cases h

/-- A text that names no algorithm is refused, and the refusal tells it. -/
theorem parse_eq_error {t : Text} (h : ∀ alg, parse (.json (.str t)) ≠ .ok alg) :
    parse (.json (.str t)) = .error ⟨.json (.str t)⟩ := by
  rw [parse] at h ⊢
  split
  · next alg halg => exact absurd (by simp [halg]) (h alg)
  · rfl

/-- The laws of naming an algorithm. -/
structure Naming : Prop where
  /-- A text names an algorithm if it is its name, with ASCII letters in either case. -/
  accepted : ∀ (t : Text) (alg : Algorithm),
    parse (.json (.str t)) = .ok alg ↔ alg.name.SameLetters t
  /-- Any other text is refused as a bad value, and told as it was given. -/
  refused : ∀ t : Text, (∀ alg : Algorithm, ¬ alg.name.SameLetters t) →
    ∃ u : Unsupported, parse (.json (.str t)) = .error u ∧ u.given = .json (.str t) ∧
      (Failure.unsupported u).kind = .value
  /-- So is every text with anything in it but ASCII letters and digits: one with a code point
  beyond ASCII, with white space before or after a name, or with a zero. -/
  strange : ∀ (t : Text) (c : CodePoint), c ∈ t → ¬ c.IsAlphanumeric →
    ∃ u : Unsupported, parse (.json (.str t)) = .error u ∧ u.given = .json (.str t) ∧
      (Failure.unsupported u).kind = .value
  /-- Texts that differ in the case of ASCII letters alone name the same algorithm, or none. -/
  recased : ∀ s t : Text, s.SameLetters t →
    (parse (.json (.str s))).toOption = (parse (.json (.str t))).toOption
  /-- The name of what a text names is as good as the text. -/
  again : ∀ (t : Text) (alg : Algorithm), parse (.json (.str t)) = .ok alg →
    parse (.json (.str alg.name)) = parse (.json (.str t))
  /-- A signer that is built from bytes tells its algorithm by the name in lower case, in whichever
  case that was given. -/
  told : ∀ {σ : Type} (cert key : Bytes) (given : Datum) (tsaUrl password : Option Text)
    (w w' : World σ) (s : KeySigner σ PublicKey),
    KeySigner.ofBytes cert key given tsaUrl password w = (.ok s, w') →
    ∃ (t : Text) (alg : Algorithm), given = .json (.str t) ∧ alg.name.SameLetters t ∧
      t.lower = alg.name ∧ ∀ b, s.toSigner.alg b = (.ok (some alg.name), b)

/-- **An algorithm is named by its name in ASCII letters of either case, and by nothing else** that
Unicode has. -/
theorem naming : Naming := by
  have hrefused {t : Text} (h : ∀ alg : Algorithm, ¬ alg.name.SameLetters t) :
      ∃ u : Unsupported, parse (.json (.str t)) = .error u ∧ u.given = .json (.str t) ∧
        (Failure.unsupported u).kind = .value :=
    ⟨_, parse_eq_error fun alg halg => h alg (parse_eq_ok_iff_sameLetters.1 halg), rfl, rfl⟩
  refine
    { accepted := fun t alg => parse_eq_ok_iff_sameLetters
      refused := fun t h => hrefused h
      strange := fun t c hc hstrange => hrefused fun alg halg => hstrange ?_
      recased := fun s t hst => ?_
      again := fun t alg h => ?_
      told := fun cert key given tsaUrl password w w' s h => ?_ }
  · exact halg.isAlphanumeric (fun d hd => (alg.isNameLetter_of_mem_name d hd).2.2.2) c hc
  · refine Option.ext fun alg => ?_
    rw [Outcome.toOption_eq_some_iff, Outcome.toOption_eq_some_iff, parse_eq_ok_iff_sameLetters,
      parse_eq_ok_iff_sameLetters, Text.sameLetters_iff, Text.sameLetters_iff,
      Text.sameLetters_iff.1 hst]
  · rw [h, parse_name]
  · have halg := KeySigner.parse_alg_of_ofBytes h
    obtain ⟨t, rfl⟩ := exists_text_of_parse halg
    refine ⟨t, s.alg, rfl, parse_eq_ok_iff_sameLetters.1 halg, ?_, fun b => rfl⟩
    exact (ofName?_eq_some_iff.1 (parse_text_eq_ok_iff.1 halg)).symm

/-- Names have no k, so KELVIN SIGN makes none; and the dot that lower case leaves apart from an i
is no part of one. -/
example : (txt "ED25519").lower = ed25519.name ∧ Text.lower [CodePoint.ofNat 0x212A] = txt "k" ∧
    Text.lower [CodePoint.ofNat 0x130] = [cp 'i', CodePoint.ofNat 0x307] := by
  decide

end Algorithm

end ClaimSeal

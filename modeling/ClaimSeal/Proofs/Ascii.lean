import ClaimSeal.Base64
import ClaimSeal.Proofs.Digits
import ClaimSeal.Text.Utf8

/-!
**ASCII texts.**

The code points below 128 are written as the bytes of the same numbers, by themselves and in UTF-8.
Digits are such code points, and base64 writes nothing else.

Main definitions:

* `Text.IsAscii` — a text of such code points.

Main results:

* `Text.toAscii?_ofAscii`, `Utf8.decode?_flatMap_encodePoint` — what is written is read back;
* `Text.isAscii_digits`, `Text.isAscii_hexPadded` — digits are ASCII;
* `Base64.lt_of_mem_encode` — so is base64.
-/

set_option autoImplicit false

namespace ClaimSeal

namespace Text

/-- A text of code points below 128. -/
def IsAscii (t : Text) : Prop := ∀ c ∈ t, c.val < 128

-- by the list: the instance for a bounded quantifier would go through all code points
instance (t : Text) : Decidable t.IsAscii :=
  decidable_of_iff (t.all (fun c => c.val < 128) = true) (by simp [IsAscii])

theorem isAscii_nil : IsAscii [] := nofun

theorem isAscii_cons {c : CodePoint} {t : Text} :
    IsAscii (c :: t) ↔ c.val < 128 ∧ IsAscii t := List.forall_mem_cons

theorem isAscii_append {s t : Text} : IsAscii (s ++ t) ↔ IsAscii s ∧ IsAscii t :=
  List.forall_mem_append

theorem isAscii_flatMap {f : CodePoint → Text} (h : ∀ c, IsAscii (f c)) (t : Text) :
    IsAscii (t.flatMap f) := by
  intro x hx
  obtain ⟨c, _, hx⟩ := List.mem_flatMap.1 hx
  exact h c x hx

theorem IsAscii.isSurrogate_eq_false {t : Text} (h : t.IsAscii) :
    ∀ c ∈ t, c.isSurrogate = false := by
  intro c hc
  have hlt := h c hc
  rw [Bool.eq_false_iff]
  intro hs
  rw [CodePoint.isSurrogate_iff] at hs
  omega

/-! ### ASCII bytes -/

/-- ASCII bytes make an ASCII text. -/
theorem isAscii_ofAscii {b : Bytes} (h : ∀ x ∈ b, x.toNat < 128) : IsAscii (ofAscii b) := by
  intro c hc
  obtain ⟨x, hx, rfl⟩ := List.mem_map.1 hc
  have hlt := h x hx
  rw [CodePoint.val_ofNat (by omega)]
  exact hlt

/-- The text of ASCII bytes has these bytes. -/
theorem toAscii?_ofAscii {b : Bytes} (h : ∀ x ∈ b, x.toNat < 128) :
    toAscii? (ofAscii b) = some b := by
  have hall : (ofAscii b).all (fun c => c.val < 128) = true :=
    List.all_eq_true.2 fun c hc => decide_eq_true (isAscii_ofAscii h c hc)
  have hmap : (ofAscii b).map (fun c => UInt8.ofNat c.val) = b := by
    rw [ofAscii, List.map_map]
    refine List.map_id'' (fun x => ?_) b
    have hlt := x.toNat_lt
    rw [Function.comp, CodePoint.val_ofNat (by omega), UInt8.ofNat_toNat]
  rw [toAscii?, if_pos hall, hmap]

/-! ### Digits -/

theorem val_digit_lt {d : Nat} (h : d < 16) : (digit d).val < 128 := by
  have all : ∀ d < 16, (digit d).val < 128 := by decide
  exact all d h

theorem isAscii_digits (n : Nat) : IsAscii (digits 10 n) := by
  intro c hc
  have hdigit := isAsciiDigit_of_mem_digits hc
  simp only [CodePoint.isAsciiDigit, Bool.and_eq_true, decide_eq_true_eq] at hdigit
  omega

theorem isAscii_hexPadded (width n : Nat) : IsAscii (hexPadded width n) := by
  induction width generalizing n with
  | zero => exact isAscii_nil
  | succ width ih =>
      rw [hexPadded, isAscii_append]
      exact ⟨ih (n / 16), isAscii_cons.2 ⟨val_digit_lt (Nat.mod_lt n (by decide)), isAscii_nil⟩⟩

theorem isAscii_ofInt (i : Int) : IsAscii (ofInt i) := by
  cases i with
  | ofNat n => exact isAscii_digits n
  | negSucc n => exact isAscii_cons.2 ⟨by decide, isAscii_digits (n + 1)⟩

end Text

/-- What is written in UTF-8 without surrogates is read back. -/
theorem Utf8.decode?_flatMap_encodePoint {t : Text} (h : ∀ c ∈ t, c.isSurrogate = false) :
    decode? (t.flatMap encodePoint) = some t := by
  refine decode?_of_encode? ?_
  rw [encode?, if_neg]
  intro hany
  obtain ⟨c, hc, hs⟩ := List.any_eq_true.1 hany
  rw [h c hc] at hs
  cases hs

namespace Base64

theorem digit_lt {n : Nat} (h : n < 64) : (digit n).toNat < 128 := by
  have all : ∀ n < 64, (digit n).toNat < 128 := by decide
  exact all n h

theorem lt_of_mem_encode {b : Bytes} : ∀ x ∈ encode b, x.toNat < 128 := by
  have hpad : pad.toNat < 128 := by decide
  fun_induction encode b with
  | case1 => exact List.forall_mem_nil _
  | case2 a =>
      have ha := a.toNat_lt
      simp only [List.forall_mem_cons]
      exact ⟨digit_lt (by omega), digit_lt (by omega), hpad, hpad, List.forall_mem_nil _⟩
  | case3 a b =>
      have ha := a.toNat_lt
      have hb := b.toNat_lt
      simp only [List.forall_mem_cons]
      exact ⟨digit_lt (by omega), digit_lt (by omega), digit_lt (by omega), hpad,
        List.forall_mem_nil _⟩
  | case4 a b c rest ih =>
      have ha := a.toNat_lt
      have hb := b.toNat_lt
      have hc := c.toNat_lt
      simp only [List.forall_mem_cons]
      exact ⟨digit_lt (by omega), digit_lt (by omega), digit_lt (by omega), digit_lt (by omega),
        ih⟩

end Base64

end ClaimSeal

import ClaimSeal.Ber
import ClaimSeal.Der

/-!
**What is written strictly is read back leniently.**

Numbers are written in as few bytes as possible, and lengths before contents.  A reader that takes
any form of a length takes this one too, and finds the values that were written.

Main definitions:

* `Ber.Element.plain` — the element that a leading byte and contents are written for.

Main results:

* `Bytes.lt_count_widthOf`, `Bytes.widthOf_le` — the width of a number is the least one that has
  room for it;
* `Der.toInt_integerContents` — an integer reads back from its contents;
* `Ber.first?_encode`, `Ber.elementsWithin?_flatten` — one element, and a list of them;
* `Ber.Element.sequence?_encodeSequence` — **the parts of a sequence read back**.
-/

set_option autoImplicit false

namespace ClaimSeal

namespace Bytes

/-! ### Widths -/

theorem count_eq (width : Nat) : count width = Nat.pow 2 (8 * width) :=
  (Nat.pow_mul 2 8 width).symm

theorem count_succ (width : Nat) : count (width + 1) = 256 * count width := Nat.mul_comm _ _

theorem count_pos (width : Nat) : 0 < count width := Nat.pow_pos (by decide)

theorem count_le_count {a b : Nat} (h : a ≤ b) : count a ≤ count b :=
  Nat.pow_le_pow_right (by decide) h

theorem lt_count_of_lt_pow {n bits width : Nat} (h : n < Nat.pow 2 bits) (hle : bits ≤ 8 * width) :
    n < count width := by
  rw [count_eq]
  exact Nat.lt_of_lt_of_le h (Nat.pow_le_pow_right (by decide) hle)

/-- A number has room in as many bytes as it needs. -/
theorem lt_count_widthOf (n : Nat) : n < count (widthOf n) := by
  rw [widthOf]
  split
  · next h =>
      rw [h]
      exact count_pos 0
  · exact lt_count_of_lt_pow Nat.lt_log2_self (by omega)

/-- It needs no more bytes than have room for it. -/
theorem widthOf_le {n width : Nat} (h : n < count width) : widthOf n ≤ width := by
  rw [widthOf]
  split
  · exact Nat.zero_le width
  · next hn =>
      rw [count_eq] at h
      have hbits : Nat.log2 n < 8 * width := (Nat.log2_lt hn).2 h
      omega

theorem widthOf_pos {n : Nat} (h : n ≠ 0) : 0 < widthOf n := by
  rw [widthOf, if_neg h]
  exact Nat.succ_pos _

theorem toNat_byte {n : Nat} (h : n < 256) : (UInt8.ofNat n).toNat = n :=
  UInt8.toNat_ofNat_of_lt' h

theorem toNat_ofNat_of_lt {width n : Nat} (h : n < count width) : toNat (ofNat width n) = n := by
  rw [toNat_ofNat, Nat.mod_eq_of_lt h]

/-! ### Signs -/

/-- The first byte is a small one exactly if the string stands for less than half of its numbers. -/
theorem lt_iff_two_mul_toNat_lt (x : UInt8) (b : Bytes) :
    x < 128 ↔ 2 * toNat (x :: b) < count (b.length + 1) := by
  have hb : toNat b < count b.length := toNat_lt b
  have hx : x < 128 ↔ x.toNat < 128 := UInt8.lt_iff_toNat_lt
  rw [hx, toNat_cons, count_succ]
  constructor
  · intro h
    have hm : (x.toNat + 1) * count b.length ≤ 128 * count b.length := Nat.mul_le_mul_right _ h
    rw [Nat.add_mul] at hm
    omega
  · intro h
    refine Nat.lt_of_not_le fun hle => ?_
    -- a large first byte alone makes up half of the numbers
    have hm : 128 * count b.length ≤ x.toNat * count b.length := Nat.mul_le_mul_right _ hle
    omega

/-- A string stands for a negative integer if its number is in the upper half. -/
theorem toInt_eq (b : Bytes) :
    toInt b = if 2 * toNat b < count b.length then (toNat b : Int)
      else (toNat b : Int) - count b.length := by
  cases b with
  | nil => rfl
  | cons x b =>
      rw [toInt, List.length_cons]
      by_cases h : x < 128
      · rw [if_pos h, if_pos ((lt_iff_two_mul_toNat_lt x b).1 h)]
      · rw [if_neg h, if_neg (mt (lt_iff_two_mul_toNat_lt x b).2 h)]

end Bytes

namespace Der

open Bytes

/-! ### Integers -/

/-- The width of an integer has room for twice the number, so the sign is kept. -/
theorem two_mul_lt_count_max (n : Nat) : 2 * n < count ((widthOf (2 * n)).max 1) :=
  Nat.lt_of_lt_of_le (lt_count_widthOf _) (count_le_count (Nat.le_max_left _ _))

/-- An integer reads back from its contents. -/
theorem toInt_integerContents (i : Int) : toInt (integerContents i) = i := by
  cases i with
  | ofNat n =>
      have hroom := two_mul_lt_count_max n
      rw [integerContents, toInt_eq, length_ofNat, toNat_ofNat_of_lt (by omega), if_pos hroom]
      rfl
  | negSucc n =>
      have hroom := two_mul_lt_count_max n
      have hpos : 1 ≤ (widthOf (2 * n)).max 1 := Nat.le_max_right _ _
      rw [integerContents]
      generalize (widthOf (2 * n)).max 1 = width at hroom hpos ⊢
      -- there is at least one byte, so the number of strings is even
      obtain ⟨rest, rfl⟩ : ∃ rest, width = rest + 1 := ⟨width - 1, by omega⟩
      have heven := count_succ rest
      rw [toInt_eq, length_ofNat, toNat_ofNat_of_lt (by omega), if_neg (by omega)]
      omega

theorem length_integerContents_le {n width : Nat} (h : n < count width) :
    (integerContents n).length ≤ width + 1 := by
  have hwide : 2 * n < count (width + 1) := by
    rw [count_succ]
    omega
  show (ofNat ((widthOf (2 * n)).max 1) n).length ≤ width + 1
  rw [length_ofNat]
  exact Nat.max_le.2 ⟨widthOf_le hwide, by omega⟩

end Der

namespace Ber

open Bytes Der

/-! ### Elements -/

/-- The element that a leading byte and contents are written for. -/
def Element.plain (leading : UInt8) (contents : Bytes) : Element where
  tag := ⟨leading.toNat / 64, leading.toNat / 32 % 2 = 1, leading.toNat % 32⟩
  isOpen := false
  contents

/-- What can be written so that it reads back: the tag number is a short one, and the length of the
contents has a length of its own that is a short one. -/
def IsPlain (leading : UInt8) (contents : Bytes) : Prop :=
  leading.toNat % 32 < 31 ∧ contents.length < count 126

theorem length?_encodeLength {n : Nat} (h : n < count 126) (rest : Bytes) :
    length? (encodeLength n ++ rest) = some (some n, rest) := by
  rw [encodeLength]
  split
  · next hn =>
      have hb : (UInt8.ofNat n).toNat = n := toNat_byte (by omega)
      have hlt : UInt8.ofNat n < 0x80 := by
        rw [UInt8.lt_iff_toNat_lt, hb]
        exact hn
      rw [List.cons_append, List.nil_append, length?, if_pos hlt, hb]
  · next hn =>
      -- the first byte tells the size of the length: it is no small one, and not the open form
      have hpos : 0 < widthOf n := widthOf_pos (by omega)
      have hle : widthOf n ≤ 126 := widthOf_le h
      have hb : (UInt8.ofNat (0x80 + widthOf n)).toNat = 0x80 + widthOf n :=
        toNat_byte (by omega)
      have hlong : ¬ UInt8.ofNat (0x80 + widthOf n) < 0x80 := by
        rw [UInt8.lt_iff_toNat_lt, hb]
        exact Nat.not_lt.2 (Nat.le_add_right _ _)
      have hdefinite : UInt8.ofNat (0x80 + widthOf n) ≠ 0x80 := by
        intro heq
        have := congrArg UInt8.toNat heq
        rw [hb] at this
        simp at this
        omega
      have hsize : 0x80 + widthOf n - 0x80 = (ofNat (widthOf n) n).length := by
        rw [length_ofNat]
        omega
      rw [List.cons_append, length?, if_neg hlong, if_neg hdefinite, hb]
      simp only [hsize, List.length_append, List.take_left, List.drop_left,
        toNat_ofNat_of_lt (lt_count_widthOf n)]
      rw [if_pos (Nat.le_add_right _ _)]

/-- What is written is the first element, and what follows it is left. -/
theorem first?_encode {leading : UInt8} {contents : Bytes} (h : IsPlain leading contents)
    (rest : Bytes) :
    first? (encode leading contents ++ rest) = some (.plain leading contents, rest) := by
  have htag : tag? (leading :: (encodeLength contents.length ++ (contents ++ rest))) =
      some ((Element.plain leading contents).tag,
        encodeLength contents.length ++ (contents ++ rest)) := by
    rw [tag?]
    simp only [if_pos h.1]
    rfl
  rw [encode, List.cons_append, List.cons_append, List.append_assoc, first?, firstWithin?, htag]
  simp only [Option.bind_eq_bind, Option.bind_some, length?_encodeLength h.2, List.take_left,
    List.drop_left, List.length_append]
  rw [if_pos (Nat.le_add_right _ _)]
  rfl

/-- What is written one after the other reads back as the elements. -/
theorem elementsWithin?_flatten {parts : List (UInt8 × Bytes)} {fuel : Nat}
    (hfuel : parts.length ≤ fuel) (h : ∀ p ∈ parts, IsPlain p.1 p.2) :
    elementsWithin? fuel (parts.map fun p => encode p.1 p.2).flatten =
      some (parts.map fun p => .plain p.1 p.2) := by
  -- induction on the parts: each of them takes one unit of fuel
  induction parts generalizing fuel with
  | nil => cases fuel <;> rfl
  | cons p parts ih =>
      cases fuel with
      | zero => exact absurd hfuel (Nat.not_succ_le_zero _)
      | succ fuel =>
          have hfirst := first?_encode (h p List.mem_cons_self)
            (parts.map fun p => encode p.1 p.2).flatten
          have hrest := ih (Nat.le_of_succ_le_succ hfuel) fun q hq =>
            h q (List.mem_cons_of_mem _ hq)
          rw [List.map_cons, List.flatten_cons]
          rw [encode, List.cons_append, List.cons_append] at hfirst ⊢
          rw [elementsWithin?, hfirst]
          · simp only [Option.bind_eq_bind, Option.bind_some, hrest, List.map_cons]
          · exact List.cons_ne_nil _ _

/-- The parts of a sequence read back. -/
theorem Element.sequence?_encodeSequence {parts : List (UInt8 × Bytes)}
    (h : ∀ p ∈ parts, IsPlain p.1 p.2) :
    (Element.plain 0x30 (parts.map fun p => encode p.1 p.2).flatten).sequence? =
      some (parts.map fun p => .plain p.1 p.2) := by
  -- every part has a leading byte, so there are no more parts than bytes
  have hfuel : parts.length ≤ (parts.map fun p => encode p.1 p.2).flatten.length := by
    clear h
    induction parts with
    | nil => exact Nat.le_refl 0
    | cons p parts ih =>
        rw [List.map_cons, List.flatten_cons, List.length_append, encode]
        simp only [List.cons_append, List.length_cons]
        omega
  rw [sequence?, if_pos (by rfl), elements?]
  exact elementsWithin?_flatten hfuel h

end Ber

end ClaimSeal

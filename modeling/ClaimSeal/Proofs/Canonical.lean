import ClaimSeal.Proofs.Encoding

/-!
**One form for every value.**

The distinguished encoding is told by rules: a length takes one byte if it is below 128, else the
least number of bytes after their count, of which there are at most 126; an integer takes the least
number of bytes in two's complement that stand for it.  The rules leave no choice, and what is
written here is what they ask for, wherever they allow anything.

Main definitions:

* `Der.IsLength`, `Der.IsValue` — the rules for lengths, and for values with a leading byte;
* `Der.IsInteger`, `Der.IsPair` — the rules for integers, and for a sequence of two of them.

Main results:

* `Bytes.ofNat_length_toNat` — a byte string is written back from its number and its length;
* `Der.isLength_iff`, `Der.isShortest_and_toInt_iff` — what the rules ask for is what is written;
* `Der.isPair_iff`, `Der.IsPair.unique` — **two integers have one encoding at most**.
-/

set_option autoImplicit false

namespace ClaimSeal

namespace Bytes

/-! ### Strings by their numbers -/

/-- Strings of one length that stand for the same number are the same. -/
theorem eq_of_toNat_eq {b b' : Bytes} (hlength : b.length = b'.length)
    (h : toNat b = toNat b') : b = b' := by
  induction b generalizing b' with
  | nil => exact (List.length_eq_zero_iff.1 hlength.symm).symm
  | cons x b ih =>
      cases b' with
      | nil => cases hlength
      | cons y b' =>
          have hlength : b.length = b'.length := Nat.succ.inj hlength
          rw [toNat_cons, toNat_cons, hlength] at h
          have hb : toNat b < count b'.length := hlength ▸ toNat_lt b
          have hb' : toNat b' < count b'.length := toNat_lt b'
          -- the first byte is the quotient, the other ones are the remainder
          have hx : x.toNat = y.toNat := by
            have hquotient := congrArg (· / count b'.length) h
            simpa only [Nat.mul_comm _ (count b'.length), Nat.mul_add_div (count_pos _),
              Nat.div_eq_of_lt hb, Nat.div_eq_of_lt hb', Nat.add_zero] using hquotient
          rw [hx] at h
          rw [UInt8.toNat_inj.1 hx, ih hlength (Nat.add_left_cancel h)]

/-- A string is written back from its length and its number. -/
theorem ofNat_length_toNat (b : Bytes) : ofNat b.length (toNat b) = b :=
  eq_of_toNat_eq (length_ofNat _ _) (toNat_ofNat_of_lt (toNat_lt b))

/-- Strings of one length that stand for the same integer are the same. -/
theorem eq_of_toInt_eq {b b' : Bytes} (hlength : b.length = b'.length)
    (h : toInt b = toInt b') : b = b' := by
  have hb := toNat_lt b
  have hb' := toNat_lt b'
  rw [toInt_eq, toInt_eq, hlength] at h
  rw [hlength] at hb
  refine eq_of_toNat_eq hlength ?_
  split at h <;> split at h <;> omega

/-- The width of a number that needs all of its bytes. -/
theorem widthOf_eq {n width : Nat} (hleast : count width ≤ n) (hroom : n < count (width + 1)) :
    widthOf n = width + 1 := by
  refine Nat.le_antisymm (widthOf_le hroom) (Nat.lt_of_not_le fun hle => ?_)
  exact absurd (lt_count_widthOf n) (Nat.not_lt.2 (Nat.le_trans (count_le_count hle) hleast))

/-- A string needs all of its bytes unless the first one is zero. -/
theorem widthOf_toNat_cons {x : UInt8} (hx : x ≠ 0) (b : Bytes) :
    widthOf (toNat (x :: b)) = b.length + 1 := by
  have hpos : 1 ≤ x.toNat := by
    refine Nat.pos_of_ne_zero fun hzero => hx (UInt8.toNat_inj.1 hzero)
  have hleast : 1 * count b.length ≤ x.toNat * count b.length := Nat.mul_le_mul_right _ hpos
  refine widthOf_eq ?_ (toNat_lt (x :: b))
  rw [toNat_cons]
  omega

end Bytes

namespace Der

open Bytes

/-! ### Lengths -/

/-- The rules for a length: one byte below 128, else its bytes without a leading zero, after their
count. -/
inductive IsLength : Nat → Bytes → Prop
  | short {n : Nat} (h : n < 128) : IsLength n [UInt8.ofNat n]
  | long {x : UInt8} {rest : Bytes} (hx : x ≠ 0) (hlarge : 128 ≤ toNat (x :: rest))
      (hsize : rest.length < 126) :
      IsLength (toNat (x :: rest)) (UInt8.ofNat (128 + (rest.length + 1)) :: x :: rest)

/-- The bytes of a number that needs them all start with no zero. -/
theorem exists_cons_ofNat_widthOf {n : Nat} (h : n ≠ 0) :
    ∃ x rest, ofNat (widthOf n) n = x :: rest ∧ x ≠ 0 ∧ rest.length + 1 = widthOf n := by
  have hlength := length_ofNat (widthOf n) n
  have hvalue := toNat_ofNat_of_lt (lt_count_widthOf n)
  cases hbytes : ofNat (widthOf n) n with
  | nil =>
      rw [hbytes] at hlength
      exact absurd hlength.symm (Nat.ne_of_gt (widthOf_pos h))
  | cons x rest =>
      rw [hbytes] at hlength hvalue
      refine ⟨x, rest, rfl, ?_, hlength⟩
      rintro rfl
      -- without the zero it would need one byte less
      have hroom : n < count rest.length := by
        rw [← hvalue, toNat_cons]
        have hrest := toNat_lt rest
        simpa using hrest
      have hle := widthOf_le hroom
      rw [← hlength, List.length_cons] at hle
      omega

/-- A length is written as the rules ask for, as long as they allow for one. -/
theorem isLength_iff {n : Nat} {b : Bytes} :
    IsLength n b ↔ n < count 126 ∧ b = encodeLength n := by
  constructor
  · rintro (h | @⟨x, rest, hx, hlarge, hsize⟩)
    · have hroom : 128 < count 126 := by decide
      exact ⟨Nat.lt_trans h hroom, by rw [encodeLength, if_pos h]⟩
    · have hwidth := widthOf_toNat_cons hx rest
      refine ⟨Nat.lt_of_lt_of_le (toNat_lt (x :: rest)) (count_le_count hsize), ?_⟩
      have hbytes : ofNat (rest.length + 1) (toNat (x :: rest)) = x :: rest :=
        ofNat_length_toNat (x :: rest)
      rw [encodeLength, if_neg (Nat.not_lt.2 hlarge), hwidth, hbytes]
  · rintro ⟨hroom, rfl⟩
    rw [encodeLength]
    split
    · next h => exact .short h
    · next h =>
        have hn : n ≠ 0 := fun hzero => h (hzero ▸ by decide)
        obtain ⟨x, rest, hbytes, hx, hlength⟩ := exists_cons_ofNat_widthOf hn
        have hvalue : toNat (x :: rest) = n := by
          rw [← hbytes, toNat_ofNat_of_lt (lt_count_widthOf n)]
        have hsize := widthOf_le hroom
        have hlong := IsLength.long hx (hvalue ▸ Nat.not_lt.1 h) (by omega)
        rwa [hvalue, hlength, ← hbytes] at hlong

/-- The rules for a value with a leading byte: the length of its contents comes before them. -/
def IsValue (leading : UInt8) (contents b : Bytes) : Prop :=
  ∃ length, IsLength contents.length length ∧ b = leading :: length ++ contents

theorem isValue_iff {leading : UInt8} {contents b : Bytes} :
    IsValue leading contents b ↔
      contents.length < count 126 ∧ b = encode leading contents := by
  simp only [IsValue, isLength_iff, encode]
  constructor
  · rintro ⟨_, ⟨hroom, rfl⟩, rfl⟩
    exact ⟨hroom, rfl⟩
  · rintro ⟨hroom, rfl⟩
    exact ⟨_, ⟨hroom, rfl⟩, rfl⟩

/-! ### Integers -/

/-- The natural number that two's complement writes for an integer, up to its sign. -/
def magnitude : Int → Nat
  | .ofNat n => n
  | .negSucc n => n

theorem magnitude_of_nonneg {i : Int} (h : 0 ≤ i) : (magnitude i : Int) = i := by
  cases i with
  | ofNat n => rfl
  | negSucc n => exact absurd h (Int.not_le.2 (Int.negSucc_lt_zero n))

theorem magnitude_of_neg {i : Int} (h : i < 0) : (magnitude i : Int) = -i - 1 := by
  cases i with
  | ofNat n => exact absurd h (Int.not_lt.2 (Int.natCast_nonneg n))
  | negSucc n =>
      rw [magnitude]
      omega

theorem length_integerContents (i : Int) :
    (integerContents i).length = (widthOf (2 * magnitude i)).max 1 := by
  cases i <;> exact length_ofNat _ _

/-- The number of an integer has room in all bits of its bytes but one. -/
theorem two_mul_magnitude_lt (c : Bytes) : 2 * magnitude (toInt c) < count c.length := by
  have hc := toNat_lt c
  have hi := toInt_eq c
  split at hi
  · have hm := magnitude_of_nonneg (i := toInt c) (by omega)
    omega
  · have hm := magnitude_of_neg (i := toInt c) (by omega)
    omega

/-- The rule against bytes to spare, by numbers. -/
theorem isShortest_cons_cons_iff (x y : UInt8) (b : Bytes) :
    isShortest (x :: y :: b) = true ↔
      ¬ (x.toNat = 0 ∧ 2 * toNat (y :: b) < count (b.length + 1)) ∧
        ¬ (x.toNat = 255 ∧ count (b.length + 1) ≤ 2 * toNat (y :: b)) := by
  have hzero : x = 0 ↔ x.toNat = 0 := UInt8.toNat_inj.symm
  have hfull : x = 0xFF ↔ x.toNat = 255 := UInt8.toNat_inj.symm
  have hlow : y < 0x80 ↔ 2 * toNat (y :: b) < count (b.length + 1) := lt_iff_two_mul_toNat_lt y b
  have hhigh : 0x80 ≤ y ↔ count (b.length + 1) ≤ 2 * toNat (y :: b) := by
    rw [← UInt8.not_lt, hlow, Nat.not_lt]
  simp only [isShortest, Bool.not_eq_true', Bool.or_eq_false_iff, Bool.and_eq_false_iff,
    decide_eq_false_iff_not, hzero, hfull, hlow, hhigh, Classical.not_and_iff_not_or_not]

/-- Contents have no byte to spare exactly if there is one byte only, or if the number needs more
bits than all of the bytes but one have. -/
theorem isShortest_cons_iff (x : UInt8) (b : Bytes) :
    isShortest (x :: b) = true ↔ b = [] ∨ count b.length ≤ 2 * magnitude (toInt (x :: b)) := by
  cases b with
  | nil => simp [isShortest]
  | cons y b =>
      have hb : toNat (y :: b) < count (b.length + 1) := toNat_lt (y :: b)
      have hwhole : count (x :: y :: b).length = 256 * count (b.length + 1) := count_succ _
      have hi := toInt_eq (x :: y :: b)
      have heven := count_succ b.length
      have hx := x.toNat_lt
      rw [toNat_cons, hwhole, List.length_cons] at hi
      rw [isShortest_cons_cons_iff, List.length_cons]
      generalize toInt (x :: y :: b) = i at hi ⊢
      generalize toNat (y :: b) = tail at hb hi ⊢
      generalize count (b.length + 1) = room at hb hi heven ⊢
      have hmul : ∀ {m n : Nat}, m ≤ n → m * room ≤ n * room := fun h => Nat.mul_le_mul_right _ h
      rcases Nat.lt_or_ge x.toNat 128 with hlow | hhigh
      · -- a natural number: only a zero is to spare
        have hmost := hmul (Nat.le_of_lt_succ hlow)
        rw [if_pos (by omega)] at hi
        have hm := magnitude_of_nonneg (i := i) (by omega)
        rcases Nat.eq_zero_or_pos x.toNat with hzero | hpos
        · rw [hzero] at hi ⊢
          simp only [true_and, Nat.not_lt, reduceCtorEq, false_and, not_false_eq_true, and_true,
            false_or]
          omega
        · have hleast := hmul hpos
          have hneeds : room ≤ 2 * magnitude i := by omega
          exact iff_of_true (by omega) (.inr hneeds)
      · -- a negative number: only a byte of ones is to spare
        have hleast := hmul hhigh
        have hmost := hmul (Nat.le_of_lt_succ hx)
        rw [if_neg (by omega)] at hi
        have hm := magnitude_of_neg (i := i) (by omega)
        rcases Nat.lt_or_ge x.toNat 255 with hlow | hfull
        · have hmost := hmul (Nat.le_of_lt_succ hlow)
          have hneeds : room ≤ 2 * magnitude i := by omega
          exact iff_of_true (by omega) (.inr hneeds)
        · have hfull : x.toNat = 255 := by omega
          rw [hfull] at hi ⊢
          simp only [reduceCtorEq, false_and, not_false_eq_true, true_and, Nat.not_le, false_or]
          omega

/-- Contents have no byte to spare exactly if they are as long as the number asks for. -/
theorem isShortest_iff (c : Bytes) :
    isShortest c = true ↔ c.length = (widthOf (2 * magnitude (toInt c))).max 1 := by
  cases c with
  | nil =>
      refine iff_of_false Bool.false_ne_true ?_
      exact Nat.ne_of_lt (Nat.lt_of_lt_of_le Nat.one_pos (Nat.le_max_right _ _))
  | cons x b =>
      have hroom := two_mul_magnitude_lt (x :: b)
      rw [isShortest_cons_iff, List.length_cons] at *
      constructor
      · rintro (rfl | hleast)
        · exact (Nat.max_eq_right (widthOf_le hroom)).symm
        · rw [widthOf_eq hleast hroom]
          exact (Nat.max_eq_left (Nat.succ_pos _)).symm
      · intro hlength
        rcases Nat.eq_zero_or_pos b.length with hzero | hpos
        · exact .inl (List.length_eq_zero_iff.1 hzero)
        · refine .inr (Nat.le_of_not_lt fun hlt => ?_)
          have hle : (widthOf (2 * magnitude (toInt (x :: b)))).max 1 ≤ b.length :=
            Nat.max_le.2 ⟨widthOf_le hlt, hpos⟩
          omega

/-- The contents that the rules ask for are those that are written. -/
theorem isShortest_and_toInt_iff {c : Bytes} {i : Int} :
    isShortest c = true ∧ toInt c = i ↔ c = integerContents i := by
  constructor
  · rintro ⟨hshortest, rfl⟩
    refine eq_of_toInt_eq ?_ (toInt_integerContents _).symm
    rw [length_integerContents, ← (isShortest_iff c).1 hshortest]
  · rintro rfl
    have hvalue := toInt_integerContents i
    refine ⟨?_, hvalue⟩
    rw [isShortest_iff, hvalue, length_integerContents]

/-- The rules for an integer: contents without a byte to spare that stand for it. -/
def IsInteger (i : Int) (b : Bytes) : Prop :=
  ∃ c, (isShortest c = true ∧ toInt c = i) ∧ IsValue 0x02 c b

theorem isInteger_iff {i : Int} {b : Bytes} :
    IsInteger i b ↔ (integerContents i).length < count 126 ∧ b = encodeInteger i := by
  simp only [IsInteger, isShortest_and_toInt_iff, exists_eq_left, isValue_iff, encodeInteger]

/-! ### Pairs -/

/-- The rules for a sequence of two integers. -/
def IsPair (r s : Int) (b : Bytes) : Prop :=
  ∃ first second, IsInteger r first ∧ IsInteger s second ∧ IsValue 0x30 (first ++ second) b

/-- Two integers are written as the rules ask for, as long as they allow for the lengths. -/
theorem isPair_iff {r s : Int} {b : Bytes} :
    IsPair r s b ↔
      ((integerContents r).length < count 126 ∧ (integerContents s).length < count 126 ∧
        (encodeInteger r ++ encodeInteger s).length < count 126) ∧
      b = encodeSequence [encodeInteger r, encodeInteger s] := by
  have hflatten : [encodeInteger r, encodeInteger s].flatten =
      encodeInteger r ++ encodeInteger s := by simp
  simp only [IsPair, isInteger_iff, isValue_iff, encodeSequence, hflatten]
  constructor
  · rintro ⟨_, _, ⟨hr, rfl⟩, ⟨hs, rfl⟩, hroom, hb⟩
    exact ⟨⟨hr, hs, hroom⟩, hb⟩
  · rintro ⟨⟨hr, hs, hroom⟩, hb⟩
    exact ⟨_, _, ⟨hr, rfl⟩, ⟨hs, rfl⟩, hroom, hb⟩

/-- **Two integers have one encoding at most.** -/
theorem IsPair.unique {r s : Int} {b b' : Bytes} (h : IsPair r s b) (h' : IsPair r s b') :
    b = b' := by
  rw [(isPair_iff.1 h).2, (isPair_iff.1 h').2]

end Der

end ClaimSeal

import ClaimSeal.Bytes

/-!
**Base64.**

Three bytes are written as four digits of the standard alphabet.  A last group of one or two bytes
is filled up with equals signs, and the bits that its last digit has to spare are zero.  Reading
accepts exactly what writing produces.

Main definitions:

* `Base64.encode` — writing;
* `Base64.decode?` — reading.

Main results:

* `Base64.decode?_encode` — every byte string reads back.
-/

set_option autoImplicit false

namespace ClaimSeal

namespace Base64

/-- The digit of a number below 64. -/
def digit (n : Nat) : UInt8 :=
  if n < 26 then UInt8.ofNat (n + 65)
  else if n < 52 then UInt8.ofNat (n + 71)
  else if n < 62 then UInt8.ofNat (n - 4)
  else if n = 62 then 43
  else 47

/-- The number of a digit. -/
def value? (c : UInt8) : Option Nat :=
  if 65 ≤ c ∧ c ≤ 90 then some (c.toNat - 65)
  else if 97 ≤ c ∧ c ≤ 122 then some (c.toNat - 71)
  else if 48 ≤ c ∧ c ≤ 57 then some (c.toNat + 4)
  else if c = 43 then some 62
  else if c = 47 then some 63
  else none

/-- Fills up the last group. -/
def pad : UInt8 := 61

/-- Writes a byte string. -/
def encode : Bytes → Bytes
  | [] => []
  | [a] => [digit (a.toNat / 4), digit (a.toNat % 4 * 16), pad, pad]
  | [a, b] =>
      [digit (a.toNat / 4), digit (a.toNat % 4 * 16 + b.toNat / 16), digit (b.toNat % 16 * 4), pad]
  | a :: b :: c :: rest =>
      digit (a.toNat / 4) :: digit (a.toNat % 4 * 16 + b.toNat / 16)
        :: digit (b.toNat % 16 * 4 + c.toNat / 64) :: digit (c.toNat % 64) :: encode rest

/-- The single byte of a group of two digits. -/
def one? (a b : UInt8) : Option Bytes := do
  let x ← value? a
  let y ← value? b
  if y % 16 = 0 then some [UInt8.ofNat (x * 4 + y / 16)] else none

/-- The two bytes of a group of three digits. -/
def two? (a b c : UInt8) : Option Bytes := do
  let x ← value? a
  let y ← value? b
  let z ← value? c
  if z % 4 = 0 then some [UInt8.ofNat (x * 4 + y / 16), UInt8.ofNat (y % 16 * 16 + z / 4)]
  else none

/-- The three bytes of a group of four digits. -/
def three? (a b c d : UInt8) : Option Bytes := do
  let x ← value? a
  let y ← value? b
  let z ← value? c
  let w ← value? d
  some [UInt8.ofNat (x * 4 + y / 16), UInt8.ofNat (y % 16 * 16 + z / 4),
    UInt8.ofNat (z % 4 * 64 + w)]

/-- Reads what `encode` writes. -/
def decode? : Bytes → Option Bytes
  | [] => some []
  | a :: b :: c :: d :: rest =>
      if rest.isEmpty ∧ d = pad then if c = pad then one? a b else two? a b c
      else do
        let head ← three? a b c d
        let tail ← decode? rest
        some (head ++ tail)
  | _ => none

/-! ### Reading back -/

/-- Digits read back. -/
theorem value?_digit {n : Nat} (h : n < 64) : value? (digit n) = some n := by
  have all : ∀ n < 64, value? (digit n) = some n := by decide
  exact all n h

theorem digit_ne_pad {n : Nat} (h : n < 64) : digit n ≠ pad := by
  have all : ∀ n < 64, digit n ≠ pad := by decide
  exact all n h

theorem ofNat_eq (a : UInt8) {n : Nat} (h : n = a.toNat) : UInt8.ofNat n = a := by
  rw [h, UInt8.ofNat_toNat]

theorem one?_digits (a : UInt8) :
    one? (digit (a.toNat / 4)) (digit (a.toNat % 4 * 16)) = some [a] := by
  have ha := a.toNat_lt
  rw [one?, value?_digit (by omega), value?_digit (by omega)]
  simp only [Option.bind_eq_bind, Option.bind_some]
  rw [if_pos (by omega), ofNat_eq a (by omega)]

theorem two?_digits (a b : UInt8) :
    two? (digit (a.toNat / 4)) (digit (a.toNat % 4 * 16 + b.toNat / 16))
      (digit (b.toNat % 16 * 4)) = some [a, b] := by
  have ha := a.toNat_lt
  have hb := b.toNat_lt
  rw [two?, value?_digit (by omega), value?_digit (by omega), value?_digit (by omega)]
  simp only [Option.bind_eq_bind, Option.bind_some]
  rw [if_pos (by omega), ofNat_eq a (by omega), ofNat_eq b (by omega)]

theorem three?_digits (a b c : UInt8) :
    three? (digit (a.toNat / 4)) (digit (a.toNat % 4 * 16 + b.toNat / 16))
      (digit (b.toNat % 16 * 4 + c.toNat / 64)) (digit (c.toNat % 64)) = some [a, b, c] := by
  have ha := a.toNat_lt
  have hb := b.toNat_lt
  have hc := c.toNat_lt
  rw [three?, value?_digit (by omega), value?_digit (by omega), value?_digit (by omega),
    value?_digit (by omega)]
  simp only [Option.bind_eq_bind, Option.bind_some]
  rw [ofNat_eq a (by omega), ofNat_eq b (by omega), ofNat_eq c (by omega)]

/-- A byte string reads back. -/
theorem decode?_encode (b : Bytes) : decode? (encode b) = some b := by
  fun_induction encode b with
  | case1 => rfl
  | case2 a =>
      rw [decode?, if_pos ⟨rfl, rfl⟩, if_pos rfl, one?_digits]
  | case3 a b =>
      have hb := b.toNat_lt
      rw [decode?, if_pos ⟨rfl, rfl⟩, if_neg (digit_ne_pad (by omega)), two?_digits]
  | case4 a b c rest ih =>
      have hc := c.toNat_lt
      rw [decode?, if_neg fun h => digit_ne_pad (by omega) h.2, three?_digits, ih]
      rfl

end Base64

end ClaimSeal

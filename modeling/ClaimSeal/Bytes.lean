/-!
**Byte strings.**

A byte string is a list of bytes.  This module holds the readings of a byte string that every
encoding in the library needs: as a natural number and as a two's complement integer, most
significant byte first.

Main definitions:

* `ascii` — the bytes of a string;
* `Bytes.toNat`, `Bytes.toInt` — the number a byte string stands for;
* `Bytes.ofNat` — the string of a given width that stands for a number, modulo `256 ^ width`;
* `Bytes.xor` — bytewise exclusive or.

Main results:

* `Bytes.toNat_lt`, `Bytes.toNat_ofNat` — how numbers and byte strings of a width correspond.
-/

set_option autoImplicit false

namespace ClaimSeal

/-- A byte string. -/
abbrev Bytes := List UInt8

/-- The bytes of a string of ASCII characters. -/
def ascii (s : String) : Bytes := s.toList.map fun c => UInt8.ofNat c.toNat

namespace Bytes

/-! ### Numbers -/

/-- The natural number a byte string stands for, most significant byte first. -/
def toNat (b : Bytes) : Nat := b.foldl (fun n x => n * 256 + x.toNat) 0

/-- The number of byte strings of the given width. -/
def count (width : Nat) : Nat := Nat.pow 256 width

/-- The integer a byte string stands for in two's complement.  The empty string is zero. -/
def toInt (b : Bytes) : Int :=
  match b with
  | [] => 0
  | x :: _ => if x < 128 then (toNat b : Int) else (toNat b : Int) - count b.length

/-- The last `width` bytes of `n`, put in front of `acc`. -/
def ofNatOnto : (width n : Nat) → (acc : Bytes) → Bytes
  | 0, _, acc => acc
  | width + 1, n, acc => ofNatOnto width (n / 256) (UInt8.ofNat n :: acc)

/-- The byte string of the given width that stands for `n` modulo `256 ^ width`. -/
def ofNat (width n : Nat) : Bytes := ofNatOnto width n []

/-- The number of bytes that `n` needs; none for zero. -/
def widthOf (n : Nat) : Nat := if n = 0 then 0 else Nat.log2 n / 8 + 1

theorem length_ofNatOnto (width n : Nat) (acc : Bytes) :
    (ofNatOnto width n acc).length = width + acc.length := by
  induction width generalizing n acc with
  | zero => simp [ofNatOnto]
  | succ width ih => simp [ofNatOnto, ih]; omega

@[simp] theorem length_ofNat (width n : Nat) : (ofNat width n).length = width := by
  simp [ofNat, length_ofNatOnto]

theorem foldl_toNat (n : Nat) (b : Bytes) :
    b.foldl (fun n x => n * 256 + x.toNat) n = n * count b.length + toNat b := by
  induction b generalizing n with
  | nil => simp [toNat, count]
  | cons x b ih =>
      have h : count (b.length + 1) = count b.length * 256 := rfl
      rw [toNat, List.foldl_cons, List.foldl_cons, ih, ih (0 * 256 + x.toNat), List.length_cons, h]
      rw [Nat.add_mul, Nat.add_mul, Nat.mul_right_comm, ← Nat.mul_assoc]
      omega

/-- The first byte counts for as many strings as follow it. -/
theorem toNat_cons (x : UInt8) (b : Bytes) :
    toNat (x :: b) = x.toNat * count b.length + toNat b := by
  rw [toNat, List.foldl_cons, foldl_toNat, Nat.zero_mul, Nat.zero_add]

/-- A byte string stands for one of as many numbers as there are strings of its width. -/
theorem toNat_lt (b : Bytes) : toNat b < count b.length := by
  induction b with
  | nil => exact Nat.one_pos
  | cons x b ih =>
      have hx : x.toNat + 1 ≤ 256 := x.toNat_lt
      have h : count (b.length + 1) = 256 * count b.length := Nat.mul_comm _ _
      have hm := Nat.mul_le_mul_right (count b.length) hx
      rw [toNat_cons, List.length_cons, h]
      rw [Nat.add_mul, Nat.one_mul] at hm
      omega

theorem foldl_ofNatOnto (width n m : Nat) (acc : Bytes) :
    (ofNatOnto width n acc).foldl (fun n x => n * 256 + x.toNat) m =
      acc.foldl (fun n x => n * 256 + x.toNat) (m * count width + n % count width) := by
  induction width generalizing n acc with
  | zero =>
      have h : m * count 0 + n % count 0 = m := by simp [count, Nat.mod_one]
      rw [h, ofNatOnto]
  | succ width ih =>
      have h : count (width + 1) = 256 * count width := Nat.mul_comm _ _
      have hx : (UInt8.ofNat n).toNat = n % 256 := UInt8.toNat_ofNat
      have hn : n % (256 * count width) = n % 256 + 256 * (n / 256 % count width) := Nat.mod_mul
      have hm : m * (256 * count width) = m * count width * 256 := by
        rw [Nat.mul_comm 256, Nat.mul_assoc]
      have hs : (m * count width + n / 256 % count width) * 256 + n % 256 =
          m * count (width + 1) + n % count (width + 1) := by
        simp only [h, hn, hm]
        omega
      rw [ofNatOnto, ih, List.foldl_cons, hx, hs]

/-- A written number reads back modulo the number of strings of its width. -/
theorem toNat_ofNat (width n : Nat) : toNat (ofNat width n) = n % count width := by
  rw [toNat, ofNat, foldl_ofNatOnto, Nat.zero_mul, Nat.zero_add, List.foldl_nil]

/-! ### Combining strings -/

/-- Bytewise exclusive or, as long as the shorter string. -/
def xor (a b : Bytes) : Bytes := a.zipWith (· ^^^ ·) b

/-- Cuts a byte string into blocks of `size + 1` bytes; the last may be shorter. -/
def chunks (size : Nat) : (fuel : Nat) → Bytes → List Bytes
  | 0, _ => []
  | _, [] => []
  | fuel + 1, b => b.take (size + 1) :: chunks size fuel (b.drop (size + 1))

/-- Blocks of `size` bytes; the last may be shorter. -/
def blocks (size : Nat) (b : Bytes) : List Bytes := chunks (size - 1) b.length b

/-! ### Hexadecimal -/

/-- The value of a hexadecimal digit, in either case. -/
def hexValue? (c : UInt8) : Option UInt8 :=
  if 48 ≤ c ∧ c ≤ 57 then some (c - 48)
  else if 97 ≤ c ∧ c ≤ 102 then some (c - 87)
  else if 65 ≤ c ∧ c ≤ 70 then some (c - 55)
  else none

/-- Reads pairs of hexadecimal digits. -/
def ofHex? : Bytes → Option Bytes
  | [] => some []
  | [_] => none
  | a :: b :: rest => do
      let high ← hexValue? a
      let low ← hexValue? b
      let tail ← ofHex? rest
      return (high * 16 + low) :: tail

/-- A lower-case hexadecimal digit. -/
def hexDigit (d : UInt8) : UInt8 := if d < 10 then d + 48 else d + 87

/-- Writes every byte as two lower-case hexadecimal digits. -/
def toHex (b : Bytes) : Bytes := b.flatMap fun x => [hexDigit (x / 16), hexDigit (x % 16)]

end Bytes

end ClaimSeal

import ClaimSeal.Bytes

/-!
**AES, decryption.**

The cipher works on blocks of sixteen bytes, column by column.  Substitution is inversion in the
field of 256 elements followed by an affine map; the tables are computed from that.

Main definitions:

* `Aes.schedule` — the round keys of a key of 16, 24 or 32 bytes;
* `Aes.decryptBlock` — one block.
-/

set_option autoImplicit false

namespace ClaimSeal

namespace Aes

/-! ### The field -/

/-- Multiplication by `x`. -/
def double (a : UInt8) : UInt8 := if a < 0x80 then a <<< 1 else (a <<< 1) ^^^ 0x1b

/-- Multiplication, by the bits of the second factor. -/
def mulBits : (fuel : Nat) → (a b : UInt8) → UInt8
  | 0, _, _ => 0
  | fuel + 1, a, b => (if b % 2 = 1 then a else 0) ^^^ mulBits fuel (double a) (b / 2)

/-- Multiplication in the field. -/
def mul (a b : UInt8) : UInt8 := mulBits 8 a b

/-- The inverse, with zero for zero: the power 254. -/
def inverse (a : UInt8) : UInt8 :=
  let a2 := mul a a
  let a4 := mul a2 a2
  let a8 := mul a4 a4
  let a16 := mul a8 a8
  let a32 := mul a16 a16
  let a64 := mul a32 a32
  let a128 := mul a64 a64
  mul a2 (mul a4 (mul a8 (mul a16 (mul a32 (mul a64 a128)))))

/-- Rotation to the left. -/
def rotate (n a : UInt8) : UInt8 := (a <<< n) ||| (a >>> (8 - n))

/-- The substitution of one byte. -/
def substituted (a : UInt8) : UInt8 :=
  let b := inverse a
  b ^^^ rotate 1 b ^^^ rotate 2 b ^^^ rotate 3 b ^^^ rotate 4 b ^^^ 0x63

/-- The table of the substitution. -/
def table : Array UInt8 := (Array.range 256).map fun i => substituted (UInt8.ofNat i)

/-- The substitution by the table. -/
def substitute (a : UInt8) : UInt8 := table.getD a.toNat 0

/-- The table of the inverse substitution. -/
def inverseTable : Array UInt8 :=
  (Array.range 256).foldl
    (fun t i => t.setIfInBounds (substituted (UInt8.ofNat i)).toNat (UInt8.ofNat i))
    (Array.replicate 256 0)

/-- The inverse substitution by the table. -/
def restore (a : UInt8) : UInt8 := inverseTable.getD a.toNat 0

/-! ### The key schedule -/

/-- The words that follow those in `acc`, latest first, up to `fuel` more; `words` is the number of
words of the key and `i` the index of the next word. -/
def extend (words : Nat) : (fuel i : Nat) → (constant : UInt8) → (acc : List Bytes) → List Bytes
  | 0, _, _, acc => acc
  | fuel + 1, i, constant, acc =>
      let last := acc.headD []
      let before := acc.getD (words - 1) []
      if i % words = 0 then
        let turned := (last.drop 1 ++ last.take 1).map substitute
        let mixed := Bytes.xor turned [constant, 0, 0, 0]
        extend words fuel (i + 1) (double constant) (Bytes.xor before mixed :: acc)
      else if 6 < words ∧ i % words = 4 then
        extend words fuel (i + 1) constant (Bytes.xor before (last.map substitute) :: acc)
      else extend words fuel (i + 1) constant (Bytes.xor before last :: acc)

/-- The round keys, last round first. -/
def schedule (key : Bytes) : List Bytes :=
  let words := key.length / 4
  let total := 4 * (words + 7)
  let all := extend words (total - words) words 1 (Bytes.blocks 4 key).reverse
  (Bytes.blocks 16 all.reverse.flatten).reverse

/-! ### Decryption -/

/-- Turns row `r` of the block to the right by `r` places. -/
def unshiftRows (s : Bytes) : Bytes :=
  (List.range 16).map fun i => s.getD ((i + 16 - 4 * (i % 4)) % 16) 0

/-- Undoes the mixing of one column. -/
def unmixColumn : Bytes → Bytes
  | [a, b, c, d] =>
      let row (w x y z : UInt8) : UInt8 := mul w 14 ^^^ mul x 11 ^^^ mul y 13 ^^^ mul z 9
      [row a b c d, row b c d a, row c d a b, row d a b c]
  | other => other

/-- Undoes the mixing of all columns. -/
def unmix (s : Bytes) : Bytes := (Bytes.blocks 4 s).flatMap unmixColumn

/-- Runs the rounds backwards over the remaining round keys. -/
def unrounds : List Bytes → Bytes → Bytes
  | [], s => s
  | [k], s => Bytes.xor ((unshiftRows s).map restore) k
  | k :: ks, s => unrounds ks (unmix (Bytes.xor ((unshiftRows s).map restore) k))

/-- Decrypts one block with the round keys. -/
def decryptBlock (keys : List Bytes) (block : Bytes) : Bytes :=
  match keys with
  | [] => block
  | k :: ks => unrounds ks (Bytes.xor block k)

end Aes

end ClaimSeal

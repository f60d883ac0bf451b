import ClaimSeal.Bytes

/-!
**DES, alone and three times in a row, decryption.**

The cipher permutes and substitutes single bits, so blocks and keys are lists of bits here, most
significant bit first.

Main definitions:

* `Des.decryptBlock` — one block of eight bytes under a key of eight bytes;
* `Des.decryptTriple` — one block of eight bytes under a key of 24 bytes.
-/

set_option autoImplicit false

namespace ClaimSeal

namespace Des

/-- Bits, most significant first. -/
abbrev Bits := List Bool

/-- The bits of a byte string. -/
def toBits (b : Bytes) : Bits :=
  b.flatMap fun x => (List.range 8).map fun i => x.toNat.testBit (7 - i)

/-- The number that bits stand for. -/
def value (b : Bits) : Nat := b.foldl (fun n x => 2 * n + x.toNat) 0

/-- The bytes of a list of bits. -/
def ofBits (b : Bits) : Bytes := Bytes.ofNat (b.length / 8) (value b)

/-- Picks bits by their positions, counted from one. -/
def pick (positions : List Nat) (b : Bits) : Bits :=
  let a := b.toArray
  positions.map fun p => a.getD (p - 1) false

/-- Exclusive or. -/
def xor (a b : Bits) : Bits := a.zipWith Bool.xor b

/-! ### Tables -/

/-- The initial permutation. -/
def initial : List Nat := [
  58, 50, 42, 34, 26, 18, 10, 2, 60, 52, 44, 36, 28, 20, 12, 4,
  62, 54, 46, 38, 30, 22, 14, 6, 64, 56, 48, 40, 32, 24, 16, 8,
  57, 49, 41, 33, 25, 17, 9, 1, 59, 51, 43, 35, 27, 19, 11, 3,
  61, 53, 45, 37, 29, 21, 13, 5, 63, 55, 47, 39, 31, 23, 15, 7]

/-- The final permutation. -/
def final : List Nat := [
  40, 8, 48, 16, 56, 24, 64, 32, 39, 7, 47, 15, 55, 23, 63, 31,
  38, 6, 46, 14, 54, 22, 62, 30, 37, 5, 45, 13, 53, 21, 61, 29,
  36, 4, 44, 12, 52, 20, 60, 28, 35, 3, 43, 11, 51, 19, 59, 27,
  34, 2, 42, 10, 50, 18, 58, 26, 33, 1, 41, 9, 49, 17, 57, 25]

/-- The expansion of half a block. -/
def expansion : List Nat := [
  32, 1, 2, 3, 4, 5, 4, 5, 6, 7, 8, 9, 8, 9, 10, 11, 12, 13, 12, 13, 14, 15, 16, 17,
  16, 17, 18, 19, 20, 21, 20, 21, 22, 23, 24, 25, 24, 25, 26, 27, 28, 29, 28, 29, 30, 31, 32, 1]

/-- The permutation of half a block after the substitution. -/
def permutation : List Nat := [
  16, 7, 20, 21, 29, 12, 28, 17, 1, 15, 23, 26, 5, 18, 31, 10,
  2, 8, 24, 14, 32, 27, 3, 9, 19, 13, 30, 6, 22, 11, 4, 25]

/-- The bits of the key that are used. -/
def choice1 : List Nat := [
  57, 49, 41, 33, 25, 17, 9, 1, 58, 50, 42, 34, 26, 18, 10, 2, 59, 51, 43, 35, 27, 19, 11, 3,
  60, 52, 44, 36, 63, 55, 47, 39, 31, 23, 15, 7, 62, 54, 46, 38, 30, 22, 14, 6, 61, 53, 45, 37,
  29, 21, 13, 5, 28, 20, 12, 4]

/-- The bits of the turned key that make a round key. -/
def choice2 : List Nat := [
  14, 17, 11, 24, 1, 5, 3, 28, 15, 6, 21, 10, 23, 19, 12, 4, 26, 8, 16, 7, 27, 20, 13, 2,
  41, 52, 31, 37, 47, 55, 30, 40, 51, 45, 33, 48, 44, 49, 39, 56, 34, 53, 46, 42, 50, 36, 29, 32]

/-- By how much the halves of the key have been turned in each round. -/
def turns : List Nat := [1, 2, 4, 6, 8, 10, 12, 14, 15, 17, 19, 21, 23, 25, 27, 28]

/-- The eight substitutions of six bits by four, by rows of sixteen. -/
def boxes : List (List Nat) := [
  [14, 4, 13, 1, 2, 15, 11, 8, 3, 10, 6, 12, 5, 9, 0, 7,
   0, 15, 7, 4, 14, 2, 13, 1, 10, 6, 12, 11, 9, 5, 3, 8,
   4, 1, 14, 8, 13, 6, 2, 11, 15, 12, 9, 7, 3, 10, 5, 0,
   15, 12, 8, 2, 4, 9, 1, 7, 5, 11, 3, 14, 10, 0, 6, 13],
  [15, 1, 8, 14, 6, 11, 3, 4, 9, 7, 2, 13, 12, 0, 5, 10,
   3, 13, 4, 7, 15, 2, 8, 14, 12, 0, 1, 10, 6, 9, 11, 5,
   0, 14, 7, 11, 10, 4, 13, 1, 5, 8, 12, 6, 9, 3, 2, 15,
   13, 8, 10, 1, 3, 15, 4, 2, 11, 6, 7, 12, 0, 5, 14, 9],
  [10, 0, 9, 14, 6, 3, 15, 5, 1, 13, 12, 7, 11, 4, 2, 8,
   13, 7, 0, 9, 3, 4, 6, 10, 2, 8, 5, 14, 12, 11, 15, 1,
   13, 6, 4, 9, 8, 15, 3, 0, 11, 1, 2, 12, 5, 10, 14, 7,
   1, 10, 13, 0, 6, 9, 8, 7, 4, 15, 14, 3, 11, 5, 2, 12],
  [7, 13, 14, 3, 0, 6, 9, 10, 1, 2, 8, 5, 11, 12, 4, 15,
   13, 8, 11, 5, 6, 15, 0, 3, 4, 7, 2, 12, 1, 10, 14, 9,
   10, 6, 9, 0, 12, 11, 7, 13, 15, 1, 3, 14, 5, 2, 8, 4,
   3, 15, 0, 6, 10, 1, 13, 8, 9, 4, 5, 11, 12, 7, 2, 14],
  [2, 12, 4, 1, 7, 10, 11, 6, 8, 5, 3, 15, 13, 0, 14, 9,
   14, 11, 2, 12, 4, 7, 13, 1, 5, 0, 15, 10, 3, 9, 8, 6,
   4, 2, 1, 11, 10, 13, 7, 8, 15, 9, 12, 5, 6, 3, 0, 14,
   11, 8, 12, 7, 1, 14, 2, 13, 6, 15, 0, 9, 10, 4, 5, 3],
  [12, 1, 10, 15, 9, 2, 6, 8, 0, 13, 3, 4, 14, 7, 5, 11,
   10, 15, 4, 2, 7, 12, 9, 5, 6, 1, 13, 14, 0, 11, 3, 8,
   9, 14, 15, 5, 2, 8, 12, 3, 7, 0, 4, 10, 1, 13, 11, 6,
   4, 3, 2, 12, 9, 5, 15, 10, 11, 14, 1, 7, 6, 0, 8, 13],
  [4, 11, 2, 14, 15, 0, 8, 13, 3, 12, 9, 7, 5, 10, 6, 1,
   13, 0, 11, 7, 4, 9, 1, 10, 14, 3, 5, 12, 2, 15, 8, 6,
   1, 4, 11, 13, 12, 3, 7, 14, 10, 15, 6, 8, 0, 5, 9, 2,
   6, 11, 13, 8, 1, 4, 10, 7, 9, 5, 0, 15, 14, 2, 3, 12],
  [13, 2, 8, 4, 6, 15, 11, 1, 10, 9, 3, 14, 5, 0, 12, 7,
   1, 15, 13, 8, 10, 3, 7, 4, 12, 5, 6, 11, 0, 14, 9, 2,
   7, 11, 4, 1, 9, 12, 14, 2, 0, 6, 10, 13, 15, 3, 5, 8,
   2, 1, 14, 7, 4, 10, 8, 13, 15, 12, 9, 0, 3, 5, 6, 11]]

/-! ### The cipher -/

/-- Substitutes six bits by four. -/
def substitute (box : List Nat) (six : Bits) : Bits :=
  let row := value (six.take 1 ++ six.drop 5)
  let column := value ((six.drop 1).take 4)
  let out := box.getD (16 * row + column) 0
  [out.testBit 3, out.testBit 2, out.testBit 1, out.testBit 0]

/-- Substitutes group after group of six bits. -/
def substituteAll : List (List Nat) → Bits → Bits
  | [], _ => []
  | box :: rest, b => substitute box (b.take 6) ++ substituteAll rest (b.drop 6)

/-- The function of a round on half a block. -/
def mixed (key half : Bits) : Bits :=
  pick permutation (substituteAll boxes (xor (pick expansion half) key))

/-- The sixteen round keys of a key of eight bytes. -/
def roundKeys (key : Bytes) : List Bits :=
  let chosen := pick choice1 (toBits key)
  let left := chosen.take 28
  let right := chosen.drop 28
  turns.map fun n => pick choice2 (left.drop n ++ left.take n ++ (right.drop n ++ right.take n))

/-- Runs a block through the rounds with the given round keys. -/
def run (keys : List Bits) (block : Bits) : Bits :=
  let start := pick initial block
  let (left, right) := keys.foldl (fun (l, r) k => (r, xor l (mixed k r)))
    (start.take 32, start.drop 32)
  pick final (right ++ left)

/-- Decrypts one block of eight bytes under a key of eight bytes. -/
def decryptBlock (key block : Bytes) : Bytes :=
  ofBits (run (roundKeys key).reverse (toBits block))

/-- Decrypts one block of eight bytes under a key of 24 bytes: backwards under its last third,
forwards under the second, backwards under the first. -/
def decryptTriple (key block : Bytes) : Bytes :=
  let k1 := roundKeys (key.take 8)
  let k2 := roundKeys ((key.drop 8).take 8)
  let k3 := roundKeys (key.drop 16)
  ofBits (run k1.reverse (run k2 (run k3.reverse (toBits block))))

end Des

end ClaimSeal

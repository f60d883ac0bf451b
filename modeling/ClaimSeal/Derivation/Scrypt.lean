import ClaimSeal.Hash

/-!
**Keys from passwords, at the cost of memory.**

The password is expanded to several pieces.  From each piece a long list of blocks is made, every
one by mixing the one before it, and then the last block is mixed again and again with blocks of the
list that it picks itself.  The pieces that come out serve as the salt of the key.

Main definitions:

* `Scrypt.Cost` — how much work and memory a derivation takes, with `Scrypt.Cost.isValid`;
* `Scrypt.derive?` — the key.
-/

set_option autoImplicit false

namespace ClaimSeal

namespace Scrypt

/-! ### Mixing sixteen words -/

/-- Sixteen words. -/
abbrev Chunk := Array UInt32

/-- Rotation to the left. -/
def rotate (n x : UInt32) : UInt32 := (x <<< n) ||| (x >>> (32 - n))

/-- Combines the word at `i` with the rotated sum of two others. -/
def stir (i j k : Nat) (n : UInt32) (x : Chunk) : Chunk :=
  let t := rotate n (x.getD j 0 + x.getD k 0)
  x.modify i (· ^^^ t)

/-- Mixes the words at four places. -/
def quarter (a b c d : Nat) (x : Chunk) : Chunk :=
  stir a d c 18 (stir d c b 13 (stir c b a 9 (stir b a d 7 x)))

/-- Mixes the columns and then the rows of the square of all words. -/
def doubleRound (x : Chunk) : Chunk :=
  let x := quarter 0 4 8 12 x
  let x := quarter 5 9 13 1 x
  let x := quarter 10 14 2 6 x
  let x := quarter 15 3 7 11 x
  let x := quarter 0 1 2 3 x
  let x := quarter 5 6 7 4 x
  let x := quarter 10 11 8 9 x
  quarter 15 12 13 14 x

/-- Word by word exclusive or. -/
def xor (x y : Chunk) : Chunk := x.zipWith (· ^^^ ·) y

/-- Mixes sixteen words, eight rounds long. -/
def core (x : Chunk) : Chunk :=
  (doubleRound (doubleRound (doubleRound (doubleRound x)))).zipWith (· + ·) x

/-! ### Mixing blocks -/

/-- A block: chunks of sixteen words. -/
abbrev Block := List Chunk

/-- Mixes chunk after chunk, each together with the result before it. -/
def mixFrom (last : Chunk) : Block → Block
  | [] => []
  | c :: rest =>
      let mixed := core (xor last c)
      mixed :: mixFrom mixed rest

/-- The chunks at even places. -/
def evens : Block → Block
  | [] => []
  | [c] => [c]
  | c :: _ :: rest => c :: evens rest

/-- Mixes a block and puts the chunks at even places first. -/
def mix (b : Block) : Block :=
  let mixed := mixFrom (b.getLastD #[]) b
  evens mixed ++ evens (mixed.drop 1)

/-- The number that a block picks: its last chunk, least significant word first. -/
def picked (b : Block) : Nat :=
  let last := b.getLastD #[]
  (last.getD 0 0).toNat + 4294967296 * (last.getD 1 0).toNat

/-- The blocks of the list, by mixing `n` times, and the block after the last one. -/
def fill : (n : Nat) → (list : Array Block) → Block → Array Block × Block
  | 0, list, b => (list, b)
  | n + 1, list, b => fill n (list.push b) (mix b)

/-- Mixes a block `n` times with the block of the list that it picks. -/
def stirIn (list : Array Block) : (n : Nat) → Block → Block
  | 0, b => b
  | n + 1, b =>
      let other := list.getD (picked b % list.size) []
      stirIn list n (mix (b.zipWith xor other))

/-- Mixes a block by way of a list of `n` blocks. -/
def mixWith (n : Nat) (b : Block) : Block :=
  let (list, b) := fill n #[] b
  stirIn list n b

/-! ### Bytes -/

/-- The words of a byte string, least significant byte first. -/
def toBlock (b : Bytes) : Block :=
  (Bytes.blocks 64 b).map fun chunk =>
    ((Bytes.blocks 4 chunk).map fun w => UInt32.ofNat (Bytes.toNat w.reverse)).toArray

/-- The bytes of a block. -/
def ofBlock (b : Block) : Bytes :=
  b.flatMap fun chunk => chunk.toList.flatMap fun w => (Bytes.ofNat 4 w.toNat).reverse

/-! ### The derivation -/

/-- The cost of a derivation: how many blocks a list has, how long a block is in units of 128 bytes,
and how many pieces there are. -/
structure Cost where
  blocks : Nat
  size : Nat
  pieces : Nat
deriving DecidableEq, Repr

/-- More bytes than any memory has. -/
def noMemory : Nat := Nat.pow 2 40

/-- Whether a cost can be met.  The number of blocks is a power of two, which a block can pick. -/
def Cost.isValid (c : Cost) : Bool :=
  2 ≤ c.blocks && Nat.pow 2 (Nat.log2 c.blocks) = c.blocks && 1 ≤ c.size && 1 ≤ c.pieces
    && Nat.log2 c.blocks < 16 * c.size && c.size * c.pieces < Nat.pow 2 30
    && 128 * c.size * (c.blocks + c.pieces) < noMemory

/-- A key of `size` bytes from a password, if the cost can be met. -/
def derive? (password salt : Bytes) (cost : Cost) (size : Nat) : Option Bytes :=
  if cost.isValid then
    let width := 128 * cost.size
    let seed := Hash.sha256.pbkdf2 password salt 1 (cost.pieces * width)
    let mixed := (Bytes.blocks width seed).flatMap fun piece =>
      ofBlock (mixWith cost.blocks (toBlock piece))
    some (Hash.sha256.pbkdf2 password mixed 1 size)
  else none

end Scrypt

end ClaimSeal

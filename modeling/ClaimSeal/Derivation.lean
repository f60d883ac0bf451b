import ClaimSeal.Derivation.Scrypt
import ClaimSeal.Text.Utf8

/-!
**Keys from passwords.**

A key is made from a password and a salt, slowly, so that trying many passwords takes long.

Main definitions:

* `Derivation`, `Derivation.key?` — the derivations that are chosen freely, and the key of a size;
* `Derivation.hashed?` — hashing again and again;
* `Derivation.diversified` — hashing that is told apart by a purpose;
* `Derivation.chained` — digests one after another.
-/

set_option autoImplicit false

namespace ClaimSeal

/-- A derivation of keys of any size: by rounds of a keyed hash, or by a cost in memory. -/
inductive Derivation where
  | rounds (salt : Bytes) (count : Nat) (hash : Hash)
  | memory (salt : Bytes) (cost : Scrypt.Cost)
deriving DecidableEq

namespace Derivation

/-- A key of `size` bytes from a password.  There has to be at least one round. -/
def key? (d : Derivation) (password : Bytes) (size : Nat) : Option Bytes :=
  match d with
  | rounds salt count hash =>
      if count = 0 then none else some (hash.pbkdf2 password salt count size)
  | memory salt cost => Scrypt.derive? password salt cost size

/-! ### Hashing again and again -/

/-- Hashes `n` times. -/
def rehash (h : Hash) : (n : Nat) → Bytes → Bytes
  | 0, b => b
  | n + 1, b => rehash h n (h.digest b)

/-- The digest of password and salt, hashed `count` times in all. -/
def hashed? (h : Hash) (password salt : Bytes) (count : Nat) : Option Bytes :=
  if count = 0 then none else some (rehash h count (password ++ salt))

/-! ### Hashing for a purpose -/

/-- Repeats a byte string up to whole blocks. -/
def repeated (blockSize : Nat) (b : Bytes) : Bytes :=
  let total := blockSize * ((b.length + blockSize - 1) / blockSize)
  ((List.replicate ((total + b.length - 1) / b.length) b).flatten).take total

/-- A code point in units of two bytes; above `U+FFFF` it is a pair of surrogates. -/
def units (c : CodePoint) : Bytes :=
  let n := c.val
  if n < 0x10000 then Bytes.ofNat 2 n
  else Bytes.ofNat 2 (0xD800 + (n - 0x10000) / 1024) ++ Bytes.ofNat 2 (0xDC00 + n % 1024)

/-- A password in units of two bytes, with a zero at the end. -/
def wide (password : Text) : Bytes := password.flatMap units ++ [0, 0]

/-- What a derivation is for. -/
inductive Purpose where
  | key
  | start
deriving DecidableEq, Repr

/-- The number of a purpose. -/
def Purpose.number : Purpose → UInt8
  | key => 1
  | start => 2

/-- `pieces` digests of the seed, each hashed `count` times in all; after every one the blocks of
the seed are increased by it. -/
def digests (h : Hash) (purpose : Purpose) (count : Nat) : (pieces : Nat) → (seed : Bytes) → Bytes
  | 0, _ => []
  | pieces + 1, seed =>
      let size := h.blockSize
      let digest := rehash h (max 1 count) (List.replicate size purpose.number ++ seed)
      let step := Bytes.toNat ((repeated size digest).take size) + 1
      let seed := (Bytes.blocks size seed).flatMap fun b => Bytes.ofNat size (Bytes.toNat b + step)
      digest ++ digests h purpose count pieces seed

/-- `size` bytes for a purpose. -/
def diversified (h : Hash) (purpose : Purpose) (password : Text) (salt : Bytes)
    (count size : Nat) : Bytes :=
  let seed := repeated h.blockSize salt ++ repeated h.blockSize (wide password)
  (digests h purpose count ((size + h.digestSize - 1) / h.digestSize) seed).take size

/-! ### Digests one after another -/

/-- `pieces` digests, each of the last one with the password and the salt. -/
def chained (h : Hash) (password salt : Bytes) : (pieces : Nat) → (last : Bytes) → Bytes
  | 0, _ => []
  | pieces + 1, last =>
      let next := h.digest (last ++ password ++ salt)
      next ++ chained h password salt pieces next

end Derivation

end ClaimSeal

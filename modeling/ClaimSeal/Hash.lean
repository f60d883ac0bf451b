import ClaimSeal.Text
import ClaimSeal.Hash.Sha2
import ClaimSeal.Hash.Legacy

/-!
**Hashes and what is built from them.**

Main definitions:

* `Hash`, `Hash.digest`, `Hash.digestSize` — the hashes by name;
* `Hash.hmac` — keyed hashing;
* `Hash.pbkdf2` — keys from passwords, by iterated keyed hashing;
* `Hash.mask` — the mask generation function of PKCS #1.
-/

set_option autoImplicit false

namespace ClaimSeal

/-- The hashes in use. -/
inductive Hash where
  | md5
  | sha1
  | sha224
  | sha256
  | sha384
  | sha512
deriving DecidableEq, Repr, Inhabited

namespace Hash

/-- The name of a hash. -/
def name : Hash → Text
  | md5 => txt "md5"
  | sha1 => txt "sha1"
  | sha224 => txt "sha224"
  | sha256 => txt "sha256"
  | sha384 => txt "sha384"
  | sha512 => txt "sha512"

/-- The size of a digest in bytes. -/
def digestSize : Hash → Nat
  | md5 => 16
  | sha1 => 20
  | sha224 => 28
  | sha256 => 32
  | sha384 => 48
  | sha512 => 64

/-- The size of a block in bytes. -/
def blockSize : Hash → Nat
  | sha384 | sha512 => 128
  | _ => 64

/-- The digest of a message. -/
def digest : Hash → Bytes → Bytes
  | md5 => Legacy.md5
  | sha1 => Legacy.sha1
  | sha224 => Sha2.sha224
  | sha256 => Sha2.sha256
  | sha384 => Sha2.sha384
  | sha512 => Sha2.sha512

/-! ### Keyed hashing -/

/-- The key of a keyed hash as one block. -/
def keyBlock (h : Hash) (key : Bytes) : Bytes :=
  let short := if h.blockSize < key.length then h.digest key else key
  short ++ List.replicate (h.blockSize - short.length) 0

/-- The keyed hash of a message. -/
def hmac (h : Hash) (key message : Bytes) : Bytes :=
  let block := h.keyBlock key
  h.digest (block.map (· ^^^ 0x5c) ++ h.digest (block.map (· ^^^ 0x36) ++ message))

/-- Hashes `last` again `n` times and sums all results onto `sum`. -/
def iterate (h : Hash) (password : Bytes) : (n : Nat) → (last sum : Bytes) → Bytes
  | 0, _, sum => sum
  | n + 1, last, sum =>
      let next := h.hmac password last
      iterate h password n next (Bytes.xor sum next)

/-- A key of `size` bytes from a password, by `rounds` rounds of the keyed hash. -/
def pbkdf2 (h : Hash) (password salt : Bytes) (rounds size : Nat) : Bytes :=
  let block (i : Nat) : Bytes :=
    let first := h.hmac password (salt ++ Bytes.ofNat 4 (i + 1))
    h.iterate password (rounds - 1) first first
  ((List.range ((size + h.digestSize - 1) / h.digestSize)).flatMap block).take size

/-! ### Mask generation -/

/-- `size` bytes that depend on all of a seed. -/
def mask (h : Hash) (seed : Bytes) (size : Nat) : Bytes :=
  ((List.range ((size + h.digestSize - 1) / h.digestSize)).flatMap fun i =>
    h.digest (seed ++ Bytes.ofNat 4 i)).take size

end Hash

end ClaimSeal

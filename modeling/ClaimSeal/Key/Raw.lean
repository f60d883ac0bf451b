import ClaimSeal.Bytes

/-!
**Keys that are plain byte strings.**

For some algorithms every byte string of the right size is a private key, and nearly every one is a
public key: those on the two curves for agreement, those for signatures on the same curves, and the
ones over lattices, whose private keys are seeds.

Main definitions:

* `RawKey` — the algorithms;
* `RawKey.secretSize`, `RawKey.publicSize` — the sizes of keys;
* `RawKey.isPublic` — what a public key is.
-/

set_option autoImplicit false

namespace ClaimSeal

/-- The algorithms whose keys are plain byte strings. -/
inductive RawKey where
  | x25519
  | x448
  | ed25519
  | ed448
  | mlDsa44
  | mlDsa65
  | mlDsa87
  | mlKem768
  | mlKem1024
deriving DecidableEq, Repr

namespace RawKey

/-- All algorithms. -/
def all : List RawKey :=
  [x25519, x448, ed25519, ed448, mlDsa44, mlDsa65, mlDsa87, mlKem768, mlKem1024]

/-- The object identifier, its first two numbers as one. -/
def arcs : RawKey → List Nat
  | x25519 => [43, 101, 110]
  | x448 => [43, 101, 111]
  | ed25519 => [43, 101, 112]
  | ed448 => [43, 101, 113]
  | mlDsa44 => [96, 840, 1, 101, 3, 4, 3, 17]
  | mlDsa65 => [96, 840, 1, 101, 3, 4, 3, 18]
  | mlDsa87 => [96, 840, 1, 101, 3, 4, 3, 19]
  | mlKem768 => [96, 840, 1, 101, 3, 4, 4, 2]
  | mlKem1024 => [96, 840, 1, 101, 3, 4, 4, 3]

/-- The algorithm with a given object identifier. -/
def ofArcs? (a : List Nat) : Option RawKey := all.find? (·.arcs = a)

/-- Whether the private keys are seeds of keys over lattices. -/
def isSeed : RawKey → Bool
  | mlDsa44 | mlDsa65 | mlDsa87 | mlKem768 | mlKem1024 => true
  | _ => false

/-- The size of a private key in bytes. -/
def secretSize : RawKey → Nat
  | x25519 | ed25519 | mlDsa44 | mlDsa65 | mlDsa87 => 32
  | x448 => 56
  | ed448 => 57
  | mlKem768 | mlKem1024 => 64

/-- The size of a public key in bytes. -/
def publicSize : RawKey → Nat
  | x25519 | ed25519 => 32
  | x448 => 56
  | ed448 => 57
  | mlDsa44 => 1312
  | mlDsa65 => 1952
  | mlDsa87 => 2592
  | mlKem768 => 1184
  | mlKem1024 => 1568

/-- Whether the numbers of twelve bits that a byte string is made up of are residues modulo 3329. -/
def areResidues : Bytes → Bool
  | a :: b :: c :: rest =>
      a.toNat + 256 * (b.toNat % 16) < 3329 && b.toNat / 16 + 16 * c.toNat < 3329
        && areResidues rest
  | _ => true

/-- Whether a byte string is a public key.  A key for encapsulation holds residues, followed by a
seed of 32 bytes. -/
def isPublic (k : RawKey) (b : Bytes) : Bool :=
  b.length = k.publicSize &&
    match k with
    | mlKem768 | mlKem1024 => areResidues (b.take (b.length - 32))
    | _ => true

end RawKey

end ClaimSeal

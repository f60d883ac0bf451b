import ClaimSeal.Cipher
import ClaimSeal.Curve.Parameters
import ClaimSeal.Derivation.Scrypt
import ClaimSeal.Key.Raw

/-!
**Algorithm identifiers.**

An algorithm identifier is an object identifier with parameters, and the object identifier says
which parameters there may be.  Some parameters are algorithm identifiers again.

Main definitions:

* `AlgorithmId` — what an identifier means, as far as keys and certificates need it;
* `AlgorithmId.reader` — reading.
-/

set_option autoImplicit false

namespace ClaimSeal

/-- What an algorithm identifier means: an algorithm of keys, a derivation of keys, a cipher, a way
to encrypt by a password, or something else. -/
inductive AlgorithmId where
  | rsa
  | elliptic (curve : Curve.Parameters)
  | dsa (p q g : Nat)
  | agreement (p g : Nat) (q : Option Nat)
  | raw (key : RawKey)
  | rounds (salt : Bytes) (count : Nat) (hash : AlgorithmId)
  | memory (salt : Bytes) (cost : Scrypt.Cost)
  | chaining (cipher : Cipher) (start : Bytes)
  | rc2 (version : Option Nat) (start : Bytes)
  | combined (derivation cipher : AlgorithmId)
  | hashed (salt : Bytes) (count : Nat)
  | diversified (cipher : Cipher) (salt : Bytes) (count : Nat)
  | plain (arcs : List Nat) (hasNull : Bool)
  | unknown (arcs : List Nat)
deriving DecidableEq

namespace AlgorithmId

open Der

/-! ### Object identifiers, the first two numbers as one -/

/-- RSA keys. -/
def rsaArcs : List Nat := [42, 840, 113549, 1, 1, 1]

/-- RSA keys and signatures with a salted encoding. -/
def pssArcs : List Nat := [42, 840, 113549, 1, 1, 10]

/-- Mask generation by a hash. -/
def maskArcs : List Nat := [42, 840, 113549, 1, 1, 8]

/-- Keys on elliptic curves. -/
def ellipticArcs : List Nat := [42, 840, 10045, 2, 1]

/-- Signature keys in the multiplicative group of a prime field. -/
def dsaArcs : List Nat := [42, 840, 10040, 4, 1]

/-- Agreement keys in the multiplicative group of a prime field. -/
def agreementArcs : List Nat := [42, 840, 113549, 1, 3, 1]

/-- Agreement keys in a subgroup of the multiplicative group of a prime field. -/
def subgroupArcs : List Nat := [42, 840, 10046, 2, 1]

/-- The hash SHA-1. -/
def sha1Arcs : List Nat := [43, 14, 3, 2, 26]

/-- Keyed hashing by SHA-1. -/
def keyedSha1Arcs : List Nat := [42, 840, 113549, 2, 7]

/-- Derivation by rounds of a keyed hash. -/
def roundsArcs : List Nat := [42, 840, 113549, 1, 5, 12]

/-- Derivation by a cost in memory. -/
def memoryArcs : List Nat := [43, 6, 1, 4, 1, 11591, 4, 11]

/-- The cipher RC2. -/
def rc2Arcs : List Nat := [42, 840, 113549, 3, 2]

/-- Encryption by a derivation and a cipher that are chosen freely. -/
def combinedArcs : List Nat := [42, 840, 113549, 1, 5, 13]

/-- Encryption by DES under a key that is made by hashing with MD5. -/
def hashedArcs : List Nat := [42, 840, 113549, 1, 5, 3]

/-- Hashes, keyed hashes and signatures whose parameters are either absent or null. -/
def isPlain (arcs : List Nat) : Bool :=
  match arcs with
  | [42, 840, 113549, 1, 1, n] => n = 5 || (11 ≤ n && n ≤ 14)
  | [43, 14, 3, 2, n] => n = 26 || n = 29
  | [96, 840, 1, 101, 3, 4, 2, n] => (1 ≤ n && n ≤ 4) || (7 ≤ n && n ≤ 10)
  | [96, 840, 1, 101, 3, 4, 3, n] => 13 ≤ n && n ≤ 16
  | [42, 840, 113549, 2, n] => 7 ≤ n && n ≤ 11
  | _ => false

/-- Signatures that have no parameters. -/
def isBare (arcs : List Nat) : Bool :=
  match arcs with
  | [42, 840, 10045, 4, 3, n] => 1 ≤ n && n ≤ 4
  | [96, 840, 1, 101, 3, 4, 3, n] => (1 ≤ n && n ≤ 4) || (9 ≤ n && n ≤ 12)
  | _ => false

/-- The cipher in chaining mode with a given object identifier. -/
def chainingCipher? : List Nat → Option Cipher
  | [96, 840, 1, 101, 3, 4, 1, 2] => some .aes128
  | [96, 840, 1, 101, 3, 4, 1, 22] => some .aes192
  | [96, 840, 1, 101, 3, 4, 1, 42] => some .aes256
  | [42, 840, 113549, 3, 7] => some .tripleDes
  | _ => none

/-- The cipher under a diversified key with a given object identifier. -/
def diversifiedCipher? : List Nat → Option Cipher
  | [42, 840, 113549, 1, 12, 1, 1] => some .rc4
  | [42, 840, 113549, 1, 12, 1, 3] => some .tripleDes
  | [42, 840, 113549, 1, 12, 1, 6] => some .shortRc2
  | _ => none

/-! ### Parameters -/

/-- A byte string of a given size. -/
def octetsOf (size : Nat) : Reader Bytes := do
  let b ← octets
  require (b.length = size)
  pure b

/-- A group with its cofactor and how it was made, both of which are left aside. -/
def subgroup : Reader AlgorithmId := record do
  let p ← natural
  let g ← natural
  let q ← natural
  let _ ← perhaps (universal 2) natural
  let _ ← perhaps (compound 16) any
  pure (agreement p g (some q))

/-- A group and the size of private keys, which is left aside. -/
def group : Reader AlgorithmId := record do
  let p ← natural
  let g ← natural
  let _ ← perhaps (universal 2) (below 4294967296)
  pure (agreement p g none)

/-- The parameters of the salted encoding.  What is meant where nothing is given is never written,
except for the number of the trailer. -/
def saltedEncoding (inner : Reader AlgorithmId) : Reader Unit := record do
  let hash ← perhaps (contextCompound 0) (explicit 0 inner)
  require (hash ≠ some (plain sha1Arcs true))
  let mask ← perhaps (contextCompound 1) (explicit 1 (record do pure (← objectId, ← inner)))
  require (mask ≠ some (maskArcs, plain sha1Arcs true))
  let salt ← perhaps (contextCompound 2) (explicit 2 (below 65536))
  require (salt ≠ some 20)
  let _ ← perhaps (contextCompound 3) (explicit 3 small)

/-- A derivation by rounds of a keyed hash.  The hash that is meant where none is given is never
written. -/
def derivationByRounds (inner : Reader AlgorithmId) : Reader AlgorithmId := record do
  let salt ← octets
  let count ← large
  let _ ← perhaps (universal 2) large
  let hash ← perhaps (compound 16) inner
  require (hash ≠ some (plain keyedSha1Arcs true))
  pure (rounds salt count (hash.getD (plain keyedSha1Arcs true)))

/-- A derivation by a cost in memory. -/
def derivationByMemory : Reader AlgorithmId := record do
  let salt ← octets
  let blocks ← large
  let size ← large
  let pieces ← large
  let _ ← perhaps (universal 2) (below 4294967296)
  pure (memory salt ⟨blocks, size, pieces⟩)

/-- What follows the object identifier of an algorithm other than one of keys. -/
def otherParameters (inner : Reader AlgorithmId) (arcs : List Nat) : Reader AlgorithmId :=
  if arcs = roundsArcs then derivationByRounds inner
  else if arcs = memoryArcs then derivationByMemory
  else if arcs = rc2Arcs then record do
    let version ← perhaps (universal 2) (below 4294967296)
    pure (rc2 version (← octetsOf 8))
  else if arcs = combinedArcs then record do pure (combined (← inner) (← inner))
  else if arcs = hashedArcs then record do pure (hashed (← octetsOf 8) (← large))
  else
    match chainingCipher? arcs, diversifiedCipher? arcs with
    | some cipher, _ => do pure (chaining cipher (← octetsOf cipher.blockSize))
    | none, some cipher => record do pure (diversified cipher (← octets) (← large))
    | none, none =>
        if isPlain arcs then do pure (plain arcs (← perhaps (universal 5) null).isSome)
        else do
          if isBare arcs then pure () else let _ ← optionalValue
          pure (unknown arcs)

/-- What follows the object identifier. -/
def parameters (inner : Reader AlgorithmId) (arcs : List Nat) : Reader AlgorithmId :=
  if arcs = rsaArcs then do
    let _ ← perhaps (universal 5) null
    pure rsa
  else if arcs = pssArcs then do
    let _ ← perhaps (compound 16) (saltedEncoding inner)
    pure rsa
  else if arcs = ellipticArcs then do pure (elliptic (← Curve.Parameters.reader))
  else if arcs = dsaArcs then record do pure (dsa (← natural) (← natural) (← natural))
  else if arcs = agreementArcs then group
  else if arcs = subgroupArcs then subgroup
  else
    match RawKey.ofArcs? arcs with
    | some key => pure (raw key)
    | none => otherParameters inner arcs

/-! ### Reading -/

/-- An algorithm identifier; `depth` bounds how deep others stand inside of it. -/
def readerWithin : (depth : Nat) → Reader AlgorithmId
  | 0 => fail
  | depth + 1 => record do parameters (readerWithin depth) (← objectId)

/-- An algorithm identifier. -/
def reader : Reader AlgorithmId := fun b => (readerWithin b.length).run b

end AlgorithmId

end ClaimSeal

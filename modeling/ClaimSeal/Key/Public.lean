import ClaimSeal.AlgorithmId
import ClaimSeal.Ed25519
import ClaimSeal.Rsa

/-!
**Public keys.**

Main definitions:

* `PublicKey` — public keys; of families that sign nothing here only the encoding is kept;
* `PublicKey.Info`, `PublicKey.Info.reader` — a public key as it is encoded in a certificate;
* `PublicKey.ofInfo?` — the key that is meant.
-/

set_option autoImplicit false

namespace ClaimSeal

/-- A public key. -/
inductive PublicKey where
  | elliptic (curve : Curve.Name) (point : Curve.Point)
  | rsa (key : Rsa.PublicKey)
  | ed25519 (key : Bytes)
  | other (encoding : Bytes)
deriving DecidableEq

namespace PublicKey

open Der

/-- A public key as it is encoded: the algorithm and the bits of the key. -/
structure Info where
  algorithm : AlgorithmId
  bits : Bytes

/-- An encoded public key. -/
def Info.reader : Reader Info := record do pure ⟨← AlgorithmId.reader, ← Der.bits⟩

/-- The modulus and the exponent of an RSA key. -/
def rsaReader : Reader Rsa.PublicKey := record do
  let key : Rsa.PublicKey := ⟨← natural, ← natural⟩
  require key.isUsable
  pure key

/-- The key that is meant, if it is of a known kind and well-formed. -/
def ofInfo? (info : Info) : Option PublicKey := do
  match info.algorithm with
  | .elliptic parameters =>
      let curve ← parameters.name?
      some (elliptic curve (← curve.domain.decode? info.bits))
  | .rsa => some (rsa (← whole? rsaReader info.bits))
  | .dsa _ _ _ | .agreement _ _ _ =>
      let _ ← whole? natural info.bits
      some (other info.bits)
  | .raw key =>
      if key.isPublic info.bits then
        some (if key = .ed25519 then ed25519 info.bits else other info.bits)
      else none
  | _ => none

end PublicKey

end ClaimSeal

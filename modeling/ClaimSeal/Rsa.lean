import ClaimSeal.Residue.Prime
import ClaimSeal.Hash

/-!
**Signatures by a private exponent.**

A message is encoded as a block that depends on its digest, on a salt and on a mask, and the block
is raised to the private exponent.

Main definitions:

* `Rsa.PublicKey`, `Rsa.PrivateKey` — keys;
* `Rsa.PublicKey.isUsable`, `Rsa.PrivateKey.consistent` — their checks;
* `Rsa.encodedBlock?` — the block of a message;
* `Rsa.PrivateKey.sign?` — the signature of a message.
-/

set_option autoImplicit false

namespace ClaimSeal

namespace Rsa

open Residue

/-- A public key. -/
structure PublicKey where
  modulus : Nat
  exponent : Nat
deriving DecidableEq, Repr

/-- A private key with its prime factors and what speeds up its use. -/
structure PrivateKey where
  publicKey : PublicKey
  exponent : Nat
  prime1 : Nat
  prime2 : Nat
  exponent1 : Nat
  exponent2 : Nat
  coefficient : Nat
deriving DecidableEq, Repr

/-- The size of a modulus in bits. -/
def PublicKey.size (k : PublicKey) : Nat := Nat.log2 k.modulus + 1

/-- Whether the numbers of a public key can be those of a key: the exponent is odd, at least three
and below the modulus. -/
def PublicKey.isUsable (k : PublicKey) : Bool :=
  3 ≤ k.exponent && k.exponent % 2 = 1 && k.exponent < k.modulus

/-- Whether the numbers of a private key belong together. -/
def PrivateKey.consistent (k : PrivateKey) : Bool :=
  let p := k.prime1
  let q := k.prime2
  let e := k.publicKey.exponent
  let period := Nat.lcm (p - 1) (q - 1)
  1 < e && e % 2 = 1 && isPrime p && isPrime q && k.publicKey.modulus = p * q
    && k.exponent * e % period = 1 % period
    && k.exponent1 = k.exponent % (p - 1) && k.exponent2 = k.exponent % (q - 1)
    && k.coefficient < p && k.coefficient * q % p = 1

/-- The block of `bits` bits for a message with a salt of zero bytes, if there is room for it. -/
def encodedBlock? (digestHash maskHash : Hash) (saltSize bits : Nat) (message : Bytes) :
    Option Bytes :=
  let width := (bits + 7) / 8
  if width < digestHash.digestSize + saltSize + 2 then none
  else
    let salt : Bytes := List.replicate saltSize 0
    let inner := digestHash.digest (List.replicate 8 0 ++ digestHash.digest message ++ salt)
    let data := List.replicate (width - saltSize - inner.length - 2) 0 ++ [1] ++ salt
    let masked := Bytes.xor data (maskHash.mask inner data.length)
    let kept := Bytes.toNat masked % Nat.pow 2 (8 * data.length - (8 * width - bits))
    some (Bytes.ofNat data.length kept ++ inner ++ [0xbc])

/-- The signature of a message with a salt of zero bytes. -/
def PrivateKey.sign? (k : PrivateKey) (digestHash maskHash : Hash) (saltSize : Nat)
    (message : Bytes) : Option Bytes := do
  let bits := k.publicKey.size
  let block ← encodedBlock? digestHash maskHash saltSize (bits - 1) message
  some (Bytes.ofNat ((bits + 7) / 8) (power k.publicKey.modulus (Bytes.toNat block) k.exponent))

end Rsa

end ClaimSeal

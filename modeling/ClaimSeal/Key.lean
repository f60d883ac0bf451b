import ClaimSeal.Hash
import ClaimSeal.World

/-!
**Keys and certificates, as a signer sees them.**

A private key is of a family, has a public key and signs; how it signs is told with every message.
A certificate holds a public key, which may turn out not to be loadable, a serial number and its
encoding.  What public keys are is left open: they are compared for equality and nothing else.

Main definitions:

* `KeyFamily`, `KeyUse` — families of keys, and how a key is used;
* `PrivateKey`, `Certificate` — what a signer is built from.
-/

set_option autoImplicit false

namespace ClaimSeal

/-- The family of a key, with what an algorithm may ask about it. -/
inductive KeyFamily where
  | elliptic (curve : Text) (bits : Int)
  | rsa (bits : Int)
  | edwards
  | other
deriving DecidableEq, Repr

/-- How a key is used: the hash of a signature on an elliptic curve; the hash, the hash of the mask
and the size of the salt of an RSA signature; or plainly. -/
inductive KeyUse where
  | ecdsa (digest : Hash)
  | pss (digest mask : Hash) (salt : Nat)
  | plain
deriving DecidableEq, Repr

/-- A private key whose uses act on a state `σ`, with public keys of type `κ`. -/
structure PrivateKey (σ κ : Type) where
  family : KeyFamily
  publicKey : κ
  sign : KeyUse → Bytes → ExceptT Fault (StateM σ) Bytes

/-- A certificate.  Where its public key cannot be loaded it holds the fault of the backend, or
nothing if the certificate itself is to blame. -/
structure Certificate (κ : Type) where
  publicKey : Except (Option Fault) κ
  serial : Int
  der : Bytes

end ClaimSeal

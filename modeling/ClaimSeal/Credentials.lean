import ClaimSeal.CertificateFile
import ClaimSeal.Key.File
import ClaimSeal.KeySigner

/-!
**Signers from credentials.**

A signer with a private key is built from a certificate bundle and a key, both as bytes or both as
files, and from the name of an algorithm.  An empty password is none.

Main definitions:

* `KeySigner.ofBytes`, `KeySigner.ofFiles` — signers from credentials.
-/

set_option autoImplicit false

namespace ClaimSeal

variable {σ : Type}

/-- The private key in a file; the password is given as a text. -/
def loadPrivateKey? (file : Bytes) (password : Option Text) : Option KeyMaterial :=
  match password with
  | none | some [] => KeyFile.load? file none
  | some t => (Utf8.encode? t).bind fun p => KeyFile.load? file (some p)

/-- How certificates that cannot be loaded are reported. -/
def CertificateFile.LoadError.failure : CertificateFile.LoadError → Failure
  | malformed => .credential .certificates
  | version n => .certificateVersion n

namespace KeySigner

/-- Builds a signer from a certificate bundle and a key. -/
def ofBytes (cert key : Bytes) (alg : Datum) (tsaUrl password : Option Text) :
    Operation σ (KeySigner σ PublicKey) := do
  let alg ← Operation.ofExcept (fun u => .credential (.unsupported u)) (Algorithm.parse alg)
  match loadPrivateKey? key password with
  | none => throw (.credential .privateKey)
  | some material =>
      let certs ← Operation.ofExcept CertificateFile.LoadError.failure (CertificateFile.load cert)
      build material.toPrivateKey certs alg tsaUrl none

/-- Builds a signer from a certificate file and a key file. -/
def ofFiles (cert key : PathArg) (alg : Datum) (tsaUrl password : Option Text) :
    Operation σ (KeySigner σ PublicKey) :=
  fromFiles cert key fun cert key => ofBytes cert key alg tsaUrl password

end KeySigner

end ClaimSeal

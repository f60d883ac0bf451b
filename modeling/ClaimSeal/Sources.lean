import ClaimSeal.Credentials

/-!
**Where credentials come from.**

Signers of many classes can be built from a certificate bundle and a key.  A class says how that is
done from bytes; how it is done from files follows.

Main definitions:

* `FileStore.contentAt`, `FileStore.credentialAt` — the content of the file that a caller means;
* `Configurable`, `Configurable.ofFiles` — classes of signers that are built from credentials;
* `KeySigner.configurable` — signers with a private key as such a class.
-/

set_option autoImplicit false

namespace ClaimSeal

variable {σ α : Type}

namespace FileStore

/-- The content of the file that a caller means; a failure of the file operation is reported as
`report` says. -/
def contentAt (files : FileStore) (report : Path → FileError → Failure) (p : PathArg) :
    Except Failure Bytes := do
  let path ← p.toPath.mapError fun d => Failure.path (.notAPath d)
  let sys ← path.toSystem.mapError Failure.path
  (files.read sys).mapError (report path)

/-- The content of the file with credentials that a caller means. -/
def credentialAt (files : FileStore) (p : PathArg) : Except Failure Bytes :=
  files.contentAt (fun path e => .credential (.unreadable path e)) p

end FileStore

/-- A class of signers that are built from a certificate bundle, a key, an algorithm and the address
of a time authority. -/
structure Configurable (σ α : Type) where
  ofBytes : (cert key : Bytes) → (alg : Datum) → (tsaUrl : Option Text) → Operation σ α

/-- Builds a signer from a certificate file and a key file. -/
def Configurable.ofFiles (c : Configurable σ α) (cert key : PathArg) (alg : Datum)
    (tsaUrl : Option Text) : Operation σ α :=
  fromFiles cert key fun cert key => c.ofBytes cert key alg tsaUrl

/-- Signers with a private key; the password of the key is given beforehand. -/
def KeySigner.configurable (password : Option Text) : Configurable σ (KeySigner σ PublicKey) where
  ofBytes cert key alg tsaUrl := ofBytes cert key alg tsaUrl password

end ClaimSeal

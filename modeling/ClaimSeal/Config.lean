import ClaimSeal.Credentials
import ClaimSeal.SignedClaim

/-!
**Signing with a configured signer.**

A configuration holds a signer, a placeholder at first.  It signs claims in memory and in files; a
claim in a file is read as a whole, signed, and its signature is written to another file.

Main definitions:

* `Config`, `Config.initial`, `Config.useSigner`, `Config.usePlaceholder`, `Config.useKey` —
  configurations, and how their signer is chosen;
* `Config.signBytesUnder`, `Config.signOn` — signing;
* `Config.signBytes`, `Config.sign` — the same without a limit for the digits of numbers, with the
  file operations of the store.
-/

set_option autoImplicit false

namespace ClaimSeal

/-- A configuration. -/
structure Config (σ : Type) where
  signer : Signer σ

variable {σ : Type}

/-- The files and values that a signer with a private key is configured from. -/
structure KeyOptions where
  privateKey : PathArg
  certificate : PathArg
  alg : Datum
  tsaUrl : Option Text := none
  password : Option Text := none
  ocspResponse : Option PathArg := none

namespace Config

/-- The configuration to begin with. -/
def initial : Config σ := ⟨.placeholder⟩

/-! ### Choosing a signer -/

/-- Configures any signer. -/
def useSigner (_ : Config σ) (s : Signer σ) : Config σ := ⟨s⟩

/-- Configures a placeholder. -/
def usePlaceholder (c : Config σ) : Config σ := c.useSigner .placeholder

/-- The signer that options ask for. -/
def keySigner (o : KeyOptions) : Operation σ (KeySigner σ PublicKey) := do
  let s ← KeySigner.ofFiles o.certificate o.privateKey o.alg o.tsaUrl o.password
  match o.ocspResponse with
  | none => return s
  | some p => do
      let response ← readCredential p
      Operation.ofExcept id (s.withOcsp response)

/-- Configures a signer with a private key; if it cannot be built the configuration stays. -/
def useKey (c : Config σ) (o : KeyOptions) : Operation σ (Config σ) := do
  let s ← keySigner o
  return c.useSigner s.toSigner

/-! ### Signing -/

/-- Signs a claim in memory.  The metadata is collected before signing, since the space for the
signature is laid out before. -/
def signBytesUnder (limit : DigitLimit) (c : Config σ) (data : Bytes) :
    Operation σ SignedClaim := do
  let reserveSize ← Operation.act c.signer.reserveSize
  let certs ← Operation.act c.signer.certs
  let alg ← Operation.act c.signer.alg
  let signature ← c.signer.signClaimUnder limit data
  let timeAuthorityUrl ← Operation.act c.signer.timeAuthorityUrl
  let ocspVal ← Operation.act c.signer.ocspVal
  return { signature, alg, certs, reserveSize, timeAuthorityUrl, ocspVal }

/-- Signs a claim in memory, where every number may be written. -/
def signBytes (c : Config σ) (data : Bytes) : Operation σ SignedClaim := c.signBytesUnder 0 data

/-- What is logged about a signature that has been written. -/
def wroteLine (claim signature : PathArg) : Text :=
  txt "Wrote signature for " ++ claim.shown ++ txt " to " ++ signature.shown

/-- Signs a claim in a file and writes the signature to another one. -/
def signOn (disk : Disk σ) (limit : DigitLimit) (c : Config σ) (claim signature : PathArg) :
    Operation σ SignedClaim := do
  let data ← Operation.readFile (← Operation.path claim)
  let signed ← c.signBytesUnder limit data
  disk.write (← Operation.path signature) signed.signature
  Operation.log .info (wroteLine claim signature)
  return signed

/-- Signs a claim in a file, where every number may be written and the files are those of the
store. -/
def sign (c : Config σ) (claim signature : PathArg) : Operation σ SignedClaim :=
  c.signOn .store 0 claim signature

end Config

/-- Signs a claim in a file with the configuration to begin with. -/
def signWithDefaults (claim signature : PathArg) : Operation σ SignedClaim :=
  Config.initial.sign claim signature

end ClaimSeal

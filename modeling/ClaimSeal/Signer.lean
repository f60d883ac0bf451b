import ClaimSeal.World

/-!
**Signers.**

A claim is a byte string, and a signer makes a signature of it.  The place for the signature is
laid out before it is made, so a signer reserves space: a signature that does not fit is refused,
never cut.  Besides the signature a signer has an algorithm, a chain of certificates with its own
at the end, and perhaps the address of a time authority and a revocation response.

Main definitions:

* `Signer` — what a signer can do;
* `Signer.placeholder` — a signer whose signatures never verify;
* `checkSizeUnder` — the check that a signature fits;
* `Signer.signClaimUnder` — signing with that check, with failures classified;
* `checkSize`, `Signer.signClaim` — the same without a limit for the digits of numbers;
* `readCredential`, `fromFiles` — credentials from files.
-/

set_option autoImplicit false

namespace ClaimSeal

/-- A signer whose backend has state `σ`. -/
structure Signer (σ : Type) where
  sign : Bytes → Action σ Bytes
  alg : Action σ (Option Text)
  certs : Action σ (List Bytes)
  reserveSize : Action σ Int
  timeAuthorityUrl : Action σ (Option Text) := pure none
  ocspVal : Action σ (Option Bytes) := pure none

variable {σ : Type}

/-! ### Placeholders -/

/-- The signature of a placeholder. -/
def invalidSignature : Bytes := ascii "invalid signature"

/-- The space that a placeholder reserves. -/
def placeholderSize : Int := 128

/-- A signer that always returns the same invalid signature. -/
def Signer.placeholder : Signer σ where
  sign _ := pure invalidSignature
  alg := pure none
  certs := pure []
  reserveSize := pure placeholderSize

/-! ### Signing -/

/-- Lets a signature pass that fits into the reserved space.  One that does not is told together
with the space, if that may be written. -/
def checkSizeUnder (limit : DigitLimit) (signature : Bytes) (reserved : Int) :
    Except Failure Bytes :=
  if (signature.length : Int) ≤ reserved then .ok signature
  else
    match written limit reserved with
    | .error f => .error f
    | .ok () => .error (.oversized signature.length reserved)

/-- The same where every number may be written. -/
def checkSize (signature : Bytes) (reserved : Int) : Except Failure Bytes :=
  checkSizeUnder 0 signature reserved

/-- How a failure to sign is reported: one that says so passes, one that may not be handled passes,
any other becomes the cause of a failure to sign. -/
def Failure.toSigning (f : Failure) : Failure :=
  if f.isSigning || !f.isOrdinary then f else .signing f

/-- What is logged about a signature. -/
def signedLine (data signature : Bytes) (reserved : Int) : Text :=
  txt "Signed " ++ Text.ofNat data.length ++ txt " bytes, got " ++ Text.ofNat signature.length
    ++ txt " bytes of " ++ Text.ofInt reserved ++ txt " reserved"

/-- Signs a claim within a given reservation.  What is logged tells the reservation, so that has to
be a number that may be written. -/
def signWithinUnder (limit : DigitLimit) (sign : Bytes → Action σ Bytes) (data : Bytes)
    (reserved : Int) : Operation σ Bytes := do
  match ← Operation.outcome (Operation.act (sign data)) with
  | .error f => throw f.toSigning
  | .ok signature =>
      Operation.ofExcept id (written limit reserved)
      Operation.log .debug (signedLine data signature reserved)
      Operation.ofExcept id (checkSizeUnder limit signature reserved)

/-- Signs a claim and checks that the signature fits into the space reserved before. -/
def Signer.signClaimUnder (limit : DigitLimit) (s : Signer σ) (data : Bytes) :
    Operation σ Bytes := do
  let reserved ← Operation.act s.reserveSize
  signWithinUnder limit s.sign data reserved

/-- Signs a claim within a given reservation, where every number may be written. -/
def signWithin (sign : Bytes → Action σ Bytes) (data : Bytes) (reserved : Int) :
    Operation σ Bytes := signWithinUnder 0 sign data reserved

/-- Signs a claim with the size check, where every number may be written. -/
def Signer.signClaim (s : Signer σ) (data : Bytes) : Operation σ Bytes := s.signClaimUnder 0 data

/-! ### Credentials from files -/

/-- The content of a file with credentials. -/
def readCredential (p : PathArg) : Operation σ Bytes := do
  let path ← Operation.path p
  Operation.log .debug (txt "Reading credential material from " ++ path.text)
  Operation.readFileOr (fun e => .credential (.unreadable path e)) path

/-- Builds something from a certificate file and a key file, which are read in this order. -/
def fromFiles {α : Type} (cert key : PathArg) (build : (cert key : Bytes) → Operation σ α) :
    Operation σ α := do
  let cert ← readCredential cert
  let key ← readCredential key
  build cert key

end ClaimSeal

import ClaimSeal.Algorithm
import ClaimSeal.Fault
import ClaimSeal.FileStore
import ClaimSeal.Ocsp

/-!
**Failures.**

Every way in which the library fails is a failure: a credential is not usable, a signature cannot
be made or does not fit, a file operation or a backend fails.  A failure has a kind and a message,
and some were caused by others.

Main definitions:

* `CredentialError` — why a signer cannot be built;
* `Failure`, `Failure.kind`, `Failure.message`, `Failure.cause?` — failures;
* `Failure.isSigning`, `Failure.isOrdinary`, `Failure.stopsAll` — which failures a signer's caller
  lets pass;
* `Failure.delivered` — what becomes of a failure on its way out of a worker;
* `written` — whether a number may be written.
-/

set_option autoImplicit false

namespace ClaimSeal

/-- Why a signer cannot be built from credentials. -/
inductive CredentialError where
  | unreadable (path : Path) (error : FileError)
  | unsupported (name : Algorithm.Unsupported)
  | privateKey
  | certificates
  | publicKey (index : Nat) (fault : Option Fault)
  | notElliptic (alg : Algorithm)
  | wrongCurve (alg : Algorithm) (curve : Text)
  | notRsa (alg : Algorithm)
  | smallRsa (bits : Int)
  | notEdwards (alg : Algorithm)
  | unmatched
  | malformedResponse
  | unsuccessfulResponse (status : Ocsp.Status)
  | uncoveredSerial (serial : Int)

/-- The size in bits that an RSA key has at least. -/
def leastRsaSize : Int := 2048

namespace CredentialError

/-- The text of a fault after a colon, if there is one. -/
def after (fault : Option Fault) : Text :=
  match fault with
  | none => []
  | some f => cp ' ' :: f.message

/-- What is wrong with the credentials. -/
def message : CredentialError → Text
  | unreadable path error =>
      txt "Cannot read credentials from " ++ path.text ++ txt ": " ++ error.message
  | unsupported name => name.message
  | privateKey => txt "Cannot load private key:"
  | certificates => txt "Cannot load certificates:"
  | publicKey index fault =>
      txt "Cannot load public key of certificate " ++ Text.ofNat index ++ txt ":" ++ after fault
  | notElliptic alg => txt "Algorithm " ++ alg.name ++ txt " requires an elliptic curve key"
  | wrongCurve alg curve =>
      txt "Algorithm " ++ alg.name ++ txt " requires curve '"
        ++ (alg.curve?.map Curve.Name.text).getD [] ++ txt "', got '" ++ curve ++ txt "'"
  | notRsa alg => txt "Algorithm " ++ alg.name ++ txt " requires an RSA key"
  | smallRsa bits =>
      txt "RSA key of " ++ Text.ofInt bits ++ txt " bits is too small, need at least "
        ++ Text.ofInt leastRsaSize
  | notEdwards alg => txt "Algorithm " ++ alg.name ++ txt " requires an Ed25519 key"
  | unmatched => txt "No certificate matches the public key paired with the private key"
  | malformedResponse => txt "Invalid OCSP response:"
  | unsuccessfulResponse status =>
      txt "OCSP response has status '" ++ status.name ++ txt "', expected 'successful'"
  | uncoveredSerial serial =>
      txt "OCSP response does not cover the signing certificate (serial number "
        ++ Text.hexOfInt serial ++ txt ")"

/-- The kind of what caused the error. -/
def cause? : CredentialError → Option ErrorKind
  | unreadable _ error => some (.system (some error.obstacle.number))
  | unsupported _ => some .value
  | publicKey _ fault => fault.map Fault.kind
  | _ => none

end CredentialError

/-- A failure. -/
inductive Failure where
  | credential (e : CredentialError)
  | oversized (size : Nat) (reserved : Int)
  | keyUse (alg : Algorithm) (fault : Option Fault)
  | signing (cause : Failure)
  | unsupported (name : Algorithm.Unsupported)
  | file (e : FileError)
  | path (e : PathFault)
  | unassignedStatus (code : Int)
  | coordinate (negative : Bool)
  | certificateVersion (version : Nat)
  | longNumber (limit : DigitLimit)
  | fault (f : Fault)

namespace Failure

/-- The kind of a failure. -/
def kind : Failure → ErrorKind
  | credential _ => .credential
  | oversized _ _ | keyUse _ _ | signing _ => .signing
  | unsupported _ => .value
  | file e => .system (some e.obstacle.number)
  | path (.notAPath _) => .type
  | path .zeroByte => .value
  | path (.unencodable _) => .encoding
  | unassignedStatus _ => .lookup
  | coordinate _ => .overflow
  | certificateVersion _ => .certificateVersion
  | longNumber _ => .value
  | fault f => f.kind

/-- The message of a failure.  It is assumed to exist: a number that a backend gave with a fault is
written here whatever its size, also one that a limit on digits would not let pass. -/
def message : Failure → Text
  | credential e => e.message
  | oversized size reserved =>
      txt "Signature of " ++ Text.ofNat size ++ txt " bytes does not fit in the "
        ++ Text.ofInt reserved ++ txt " bytes reserved for it"
  | keyUse alg why =>
      txt "Signing with " ++ alg.name ++ txt " failed:" ++ CredentialError.after why
  | signing cause => txt "Signing failed: " ++ cause.message
  | unsupported name => name.message
  | file e => e.message
  | path e => e.message
  | unassignedStatus code => Text.ofInt code
  | coordinate true => txt "can't convert negative int to unsigned"
  | coordinate false => txt "int too big to convert"
  | certificateVersion version => Text.ofNat version ++ txt " is not a valid X509 version"
  | longNumber limit =>
      txt "Exceeds the limit (" ++ Text.ofNat limit
        ++ txt " digits) for integer string conversion; "
        ++ txt "use sys.set_int_max_str_digits() to increase the limit"
  | fault f => f.message

/-- The kind of what caused a failure. -/
def cause? : Failure → Option ErrorKind
  | credential e => e.cause?
  | keyUse _ why => why.map Fault.kind
  | signing cause => some cause.kind
  | _ => none

/-- Whether a failure says that signing failed. -/
def isSigning (f : Failure) : Bool := f.kind = .signing

/-- Whether a failure may be handled. -/
def isOrdinary (f : Failure) : Bool := f.kind.isOrdinary

/-- Whether a failure is one of the system. -/
def isSystem (f : Failure) : Bool := f.kind.isSystem

/-- Whether a failure stops everything at once. -/
def stopsAll (f : Failure) : Bool := f.kind.stopsAll

/-- What becomes of a failure on its way out of a worker. -/
def delivered : Failure → Failure
  | fault f => .fault f.delivered
  | f => f

end Failure

/-- Lets a number pass that may be written under a limit. -/
def written (limit : DigitLimit) (i : Int) : Except Failure Unit :=
  if limit.admits i then .ok () else .error (.longNumber limit)

end ClaimSeal

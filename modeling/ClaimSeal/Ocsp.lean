import ClaimSeal.Ber
import ClaimSeal.Text

/-!
**Revocation responses.**

A response to a question about the state of certificates has a status; a successful one carries a
basic response, which lists the certificates it speaks about by their serial numbers.  Before a
response is attached to signatures, it has to be successful and to speak about the certificate that
signs.  Whether its signature is right and what it says about the certificate is not looked at.

Main definitions:

* `Ocsp.Status` — the statuses;
* `Ocsp.status`, `Ocsp.serials?` — the status of a response and the serial numbers it covers;
* `Ocsp.accept` — the check.
-/

set_option autoImplicit false

namespace ClaimSeal

namespace Ocsp

/-- The status of a response. -/
inductive Status where
  | successful
  | malformedRequest
  | internalError
  | tryLater
  | signRequired
  | unauthorized
deriving DecidableEq, Repr

/-- The status with a given number. -/
def Status.ofCode? (code : Int) : Option Status :=
  if code = 0 then some .successful
  else if code = 1 then some .malformedRequest
  else if code = 2 then some .internalError
  else if code = 3 then some .tryLater
  else if code = 5 then some .signRequired
  else if code = 6 then some .unauthorized
  else none

/-- The name of a status. -/
def Status.name : Status → Text
  | successful => txt "successful"
  | malformedRequest => txt "malformed_request"
  | internalError => txt "internal_error"
  | tryLater => txt "try_later"
  | signRequired => txt "sign_required"
  | unauthorized => txt "unauthorized"

/-- Why a response is not accepted. -/
inductive Rejection where
  | malformed
  | unassigned (code : Int)
  | unsuccessful (status : Status)
  | uncovered (serial : Int)
deriving DecidableEq, Repr

open Ber

/-! ### Reading -/

/-- A response as a whole: its status and, in most cases, its body. -/
def outline? (b : Bytes) : Option (Int × Option Element) := do
  let (whole, _) ← first? b
  match ← whole.record? [.required, .optional 2 0] with
  | [some status, body] => some (← status.enumerated?, body)
  | _ => none

/-- The type of basic responses, as an object identifier. -/
def basicType : List Nat := [43, 6, 1, 5, 5, 7, 48, 1, 1]

/-- The basic response that a body holds. -/
def basic? (body : Element) : Option Element := do
  match ← (← body.within? 0).record? [.required, .required] with
  | [some type, some response] =>
      if (← type.arcs?) = basicType then
        let (basic, _) ← first? (← response.octets?)
        some basic
      else none
  | _ => none

/-- The serial number in an entry of a basic response. -/
def serial? (entry : Element) : Option Int := do
  match ← entry.record? [.required, .required, .required, .optional 2 0, .optional 2 1] with
  | some certificate :: _ =>
      match ← certificate.record? [.required, .required, .required, .required] with
      | [_, _, _, some serial] => serial.integer?
      | _ => none
  | _ => none

/-- The entries of a basic response. -/
def entries? (basic : Element) : Option (List Element) := do
  match ← basic.record? [.required, .required, .required, .optional 2 0] with
  | some data :: _ =>
      match ← data.record? [.optional 2 0, .required, .required, .required, .optional 2 1] with
      | [_, _, _, some entries, _] => entries.sequence?
      | _ => none
  | _ => none

/-- The status of a response. -/
def status (b : Bytes) : Except Rejection Status :=
  match outline? b with
  | none => .error .malformed
  | some (code, _) =>
      match Status.ofCode? code with
      | some s => .ok s
      | none => .error (.unassigned code)

/-- The serial numbers that a response covers. -/
def serials? (b : Bytes) : Option (List Int) := do
  let (_, body) ← outline? b
  let entries ← entries? (← basic? (← body))
  entries.mapM serial?

/-! ### The check -/

/-- Lets a response pass that is successful and covers the given serial number. -/
def accept (b : Bytes) (serial : Int) : Except Rejection Bytes := do
  let s ← status b
  if s = .successful then
    match serials? b with
    | none => .error .malformed
    | some covered => if serial ∈ covered then .ok b else .error (.uncovered serial)
  else .error (.unsuccessful s)

end Ocsp

end ClaimSeal

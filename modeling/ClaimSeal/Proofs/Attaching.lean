import ClaimSeal.Proofs.Objects

/-!
**The ways to attach a revocation response agree.**

A response is given when a signer is built, or a signer that is there is asked for a copy that
carries it.  Both check it against the certificate that the chain ends with, so both come to the
same, in memory and for the objects that callers see, whatever they do with them before and
afterwards.  A copy may be copied again.  What it carries already does not matter then: the last
response replaces the others, and it is accepted as it would have been by the first signer.

The only difference is the empty response.  When a signer is built it stands for none; a signer that
is asked to attach it refuses it.

Main definitions:

* `Heap.Descend` — all signers are copies of one, up to their responses;
* `Heap.ComesOut` — what becomes of a signer that is asked for a copy, told by a signer in memory;
* `KeySigner.Attaching` — **how responses are attached**.

Main results:

* `KeySigner.assemble_some` — a response is attached to what is built without one;
* `KeySigner.foldlM_withOcsp_eq_ok_iff` — several responses, one after the other;
* `Heap.descend_method`, `Heap.descend_run` — copies are all that callers can make;
* `KeySigner.attaching` — **the ways to attach a response agree**.
-/

set_option autoImplicit false

namespace ClaimSeal

open Run

variable {σ κ α : Type}

namespace KeySigner

/-! ### Signers in memory -/

/-- A response that is not empty is attached to what is built without one. -/
theorem assemble_some [DecidableEq κ] (key : PrivateKey σ κ) (certs : List (Certificate κ))
    (alg : Algorithm) (tsaUrl : Option Text) {response : Bytes} (h : response ≠ []) :
    assemble key certs alg tsaUrl (some response) =
      (assemble key certs alg tsaUrl none).bind fun s => s.withOcsp response := by
  cases response with
  | nil => exact absurd rfl h
  | cons x response =>
      -- both stop at the same check, the response is looked at only after all of them
      cases hsuits : alg.suits key.family with
      | error e => simp only [assemble, hsuits]; rfl
      | ok _ =>
          cases hchain : orderChain key.publicKey certs with
          | error f => simp only [assemble, hsuits, hchain]; rfl
          | ok chain => simp only [assemble, hsuits, hchain]; rfl

theorem build_fst [DecidableEq κ] (key : PrivateKey σ κ) (certs : List (Certificate κ))
    (alg : Algorithm) (tsaUrl : Option Text) (ocsp : Option Bytes) (w : World σ) :
    (build key certs alg tsaUrl ocsp w).1 = assemble key certs alg tsaUrl ocsp := by
  rw [build_apply]
  cases assemble key certs alg tsaUrl ocsp <;> rfl

/-- What a signer carries already does not matter for what it attaches. -/
theorem withOcsp_of_ocsp (s : KeySigner σ κ) (carried : Option Bytes) (response : Bytes) :
    ({ s with ocsp := carried } : KeySigner σ κ).withOcsp response = s.withOcsp response := rfl

/-- Several responses are attached if every one of them is accepted, and the last one is carried. -/
theorem foldlM_withOcsp_eq_ok_iff {s s' : KeySigner σ κ} {responses : List Bytes} :
    responses.foldlM withOcsp s = .ok s' ↔
      (∀ response ∈ responses, acceptOcsp response s.chain.own.serial = .ok response) ∧
        s' = { s with ocsp := responses.getLast?.or s.ocsp } := by
  induction responses generalizing s with
  | nil =>
      simp only [List.foldlM_nil, List.not_mem_nil, false_implies, implies_true, true_and,
        List.getLast?_nil, Option.none_or]
      exact ⟨fun h => (Except.ok.inj h).symm, fun h => congrArg Except.ok h.symm⟩
  | cons response responses ih =>
      rw [List.foldlM_cons, Outcome.bind_eq_ok_iff]
      constructor
      · rintro ⟨_, hfirst, hrest⟩
        obtain ⟨haccepted, rfl⟩ := withOcsp_eq_ok_iff.1 hfirst
        obtain ⟨hall, rfl⟩ := ih.1 hrest
        exact ⟨List.forall_mem_cons.2 ⟨haccepted, hall⟩, by simp [List.getLast?_cons]⟩
      · rintro ⟨hall, rfl⟩
        obtain ⟨haccepted, hall⟩ := List.forall_mem_cons.1 hall
        exact ⟨_, withOcsp_eq_ok_iff.2 ⟨haccepted, rfl⟩,
          ih.2 ⟨hall, by simp [List.getLast?_cons]⟩⟩

end KeySigner

namespace Heap

/-! ### Signers as objects -/

/-- All signers are copies of one, up to the responses that they carry. -/
def Descend (s : KeySigner σ κ) (h : Heap σ κ) : Prop :=
  ∀ o ∈ h.signers, ∃ carried, o.parts = { s with ocsp := carried }

theorem descend_start (s : KeySigner σ κ) (w : World σ) : Descend s (start s w) := by
  intro o ho
  obtain rfl := List.mem_singleton.1 ho
  exact ⟨s.ocsp, rfl⟩

/-- A method that only makes lists, and what comes after it, leave the signers as they are. -/
theorem signers_of_mints {h : Heap σ κ} {m : Method σ κ α} {Q : α → Prop}
    {f : α → Method σ κ Unit} (hm : Mints h.lists.length m Q)
    (hf : ∀ a h', (f a h').2.signers = h'.signers) : ((m >>= f) h).2.signers = h.signers := by
  obtain ⟨hgrows, _⟩ := hm h (Nat.le_refl _)
  rw [bind_apply]
  rcases hrun : m h with ⟨r, h'⟩
  rw [hrun] at hgrows
  cases r with
  | error e => exact hgrows.signers
  | ok a => exact (hf a h').trans hgrows.signers

theorem signers_change (h : Heap σ κ) (found : Option α) (place : α → Nat)
    (content : List Bytes) :
    ((do Method.setList (place (← Method.found found)) content : Method σ κ Unit) h).2.signers =
      h.signers := by
  cases found <;> rfl

theorem Descend.addSigner {s : KeySigner σ κ} {h : Heap σ κ} (hd : Descend s h)
    {o : SignerObject σ κ} (ho : ∃ carried, o.parts = { s with ocsp := carried }) :
    Descend s { h with signers := h.signers ++ [o] } := by
  intro p hp
  rcases List.mem_append.1 hp with hp | hp
  · exact hd p hp
  · obtain rfl := List.mem_singleton.1 hp
    exact ho

/-- A copy is a copy of what the signer is a copy of, whether the response is accepted or not. -/
theorem Descend.withOcsp {s : KeySigner σ κ} {h : Heap σ κ} (hd : Descend s h) (j : Nat)
    (response : Bytes) : Descend s (Method.withOcsp j response h).2 := by
  cases ho : h.signers[j]? with
  | none =>
      rw [withOcsp_of_none ho]
      exact hd
  | some o =>
      obtain ⟨carried, hparts⟩ := hd o (List.mem_of_getElem? ho)
      rw [withOcsp_of_some ho]
      cases acceptOcsp response o.parts.chain.own.serial with
      | error f => exact hd.addSigner ⟨carried, hparts⟩
      | ok accepted =>
          refine hd.addSigner ⟨some accepted, ?_⟩
          rw [SignerObject.withResponse, hparts]

/-- Copies are all that a caller can make of signers. -/
theorem descend_method {s : KeySigner σ κ} {h : Heap σ κ} (hd : Descend s h) (command : Command) :
    Descend s (command.method h).2 := by
  have hsame : ∀ {h' : Heap σ κ}, h'.signers = h.signers → Descend s h' := by
    intro h' hsigners
    rw [Descend, hsigners]
    exact hd
  cases command with
  | certs j => exact hsame (signers_of_mints (mints_certs j) fun _ _ => rfl)
  | sign j data => exact hsame (signers_of_mints (mints_use j _) fun _ _ => rfl)
  | signClaim j data => exact hsame (signers_of_mints (mints_use j _) fun _ _ => rfl)
  | signInWorker j data => exact hsame (signers_of_mints (mints_use j _) fun _ _ => rfl)
  | gatherIn j order claims => exact hsame (signers_of_mints (mints_use j _) fun _ _ => rfl)
  | withOcsp j response =>
      have hcopy := hd.withOcsp j response
      rw [Command.method, bind_apply]
      rcases hrun : Method.withOcsp j response h with ⟨r, h'⟩
      rw [hrun] at hcopy
      cases r <;> exact hcopy
  | signBytes j data => exact hsame (signers_of_mints (mints_signBytes j data) fun _ _ => rfl)
  | signFile j claim signature =>
      exact hsame (signers_of_mints (mints_signFile j claim signature) fun _ _ => rfl)
  | change k content => exact hsame (signers_change h _ id content)
  | changeClaim k content => exact hsame (signers_change h _ ClaimObject.certs content)

theorem descend_run {s : KeySigner σ κ} {h : Heap σ κ} (hd : Descend s h)
    (commands : List Command) : Descend s (run commands h) := by
  induction commands generalizing h with
  | nil => exact hd
  | cons command commands ih => exact ih (descend_method hd command)

/-! ### Copies with a revocation response -/

/-- A signer that is asked for a copy with a response fails, or it gives one that answers and signs
as a given signer does from then on, whatever callers do. -/
inductive ComesOut (h : Heap σ κ) (j : Nat) (response : Bytes) :
    Except Failure (KeySigner σ κ) → Prop
  | refused {f : Failure} {h' : Heap σ κ}
      (hrun : Method.withOcsp j response h = (.error f, h')) : ComesOut h j response (.error f)
  | copied {s : KeySigner σ κ} {t : Nat} {h' : Heap σ κ}
      (hrun : Method.withOcsp j response h = (.ok t, h'))
      (hview : ∀ after, (run after h').view t = .ok s.view)
      (hsign : ∀ after data, Method.sign t data (run after h') =
        Method.lift (Operation.act (s.sign data)) (run after h')) :
      ComesOut h j response (.ok s)

/-- A copy comes out as the response is attached in memory. -/
theorem Sealed.comesOut {h : Heap σ κ} (hs : h.Sealed) {j : Nat} {o : SignerObject σ κ}
    (ho : h.signers[j]? = some o) (response : Bytes) :
    ComesOut h j response (o.parts.withOcsp response) := by
  cases hout : o.parts.withOcsp response with
  | error f =>
      have hrun : Method.withOcsp j response h =
          (.error f, { h with signers := h.signers ++ [o] }) := by
        rw [withOcsp_of_some ho, KeySigner.withOcsp_eq_error_iff.1 hout]
      exact .refused hrun
  | ok s =>
      obtain ⟨haccepted, rfl⟩ := KeySigner.withOcsp_eq_ok_iff.1 hout
      have hrun : Method.withOcsp j response h = (.ok h.signers.length,
          { h with signers := h.signers ++ [o.withResponse response] }) := by
        rw [withOcsp_of_some ho, haccepted]
      have hcopied := keeps_withOcsp j response h
      rw [hrun] at hcopied
      have ht : (h.signers ++ [o.withResponse response])[h.signers.length]? =
          some (o.withResponse response) := List.getElem?_concat_length
      -- the copy stays where it is, and callers do not get at its list
      have hafter : ∀ after, (run after { h with
          signers := h.signers ++ [o.withResponse response] }).signers[h.signers.length]? =
            some (o.withResponse response) := fun after => (keeps_run after _).getElem? ht
      refine .copied hrun (fun after => ?_) fun after data => ?_
      · exact ((keeps_run after _).sealed (hcopied.sealed hs)).view_of_some (hafter after)
      · rw [Method.sign, use_of_some (hafter after)]
        rfl

end Heap

namespace KeySigner

/-! ### How responses are attached -/

/-- How responses are attached to signers. -/
structure Attaching (σ κ : Type) [DecidableEq κ] : Prop where
  /-- A response that is given when a signer is built comes to the same as one that is attached to
  what is built without it: the same failure, or the same signer. -/
  built : ∀ (key : PrivateKey σ κ) certs alg tsaUrl response, response ≠ [] → ∀ w,
    (build key certs alg tsaUrl (some response) w).1 =
      (build key certs alg tsaUrl none w).1.bind fun s => s.withOcsp response
  /-- After responses that a signer accepts, every response is attached as if it were the first, and
  the last one is carried. -/
  last : ∀ (s s' : KeySigner σ κ) (responses : List Bytes), responses.foldlM withOcsp s = .ok s' →
    s'.ocsp = responses.getLast?.or s.ocsp ∧
      ∀ response, s'.withOcsp response = s.withOcsp response
  /-- Callers see the same of any copy of a signer, whatever they have done before. -/
  objects : ∀ (s : KeySigner σ κ) w before j response,
    j < (Heap.run before (Heap.start s w)).signers.length →
      Heap.ComesOut (Heap.run before (Heap.start s w)) j response (s.withOcsp response)
  /-- An empty response that is given when a signer is built is none. -/
  emptyBuilt : ∀ (key : PrivateKey σ κ) certs alg tsaUrl w,
    build key certs alg tsaUrl (some []) w = build key certs alg tsaUrl none w ∧
      ∀ s, (build key certs alg tsaUrl (some []) w).1 = .ok s → s.ocsp = none
  /-- One that is attached is refused as a credential. -/
  emptyAttached : ∀ s : KeySigner σ κ, s.withOcsp [] = .error (.credential .malformedResponse)

/-- **The ways to attach a response agree**, and the last response wins. -/
theorem attaching (σ κ : Type) [DecidableEq κ] : Attaching σ κ where
  built key certs alg tsaUrl response hne w := by
    rw [build_fst, build_fst, assemble_some key certs alg tsaUrl hne]
  last s s' responses h := by
    obtain ⟨_, rfl⟩ := foldlM_withOcsp_eq_ok_iff.1 h
    exact ⟨rfl, withOcsp_of_ocsp s _⟩
  objects s w before j response hj := by
    have hsealed := (Heap.keeps_run before _).sealed (Heap.sealed_start s w)
    have ho := List.getElem?_eq_getElem hj
    obtain ⟨carried, hparts⟩ :=
      Heap.descend_run (Heap.descend_start s w) before _ (List.mem_of_getElem? ho)
    have hout := hsealed.comesOut ho response
    rwa [hparts, withOcsp_of_ocsp] at hout
  emptyBuilt key certs alg tsaUrl w := by
    refine ⟨rfl, fun s hs => ?_⟩
    rw [build_fst] at hs
    obtain ⟨_, chain, _, rfl, _⟩ := assemble_eq_ok_iff.1 hs
    rfl
  emptyAttached s := withOcsp_eq_error_iff.2 rfl

end KeySigner

end ClaimSeal

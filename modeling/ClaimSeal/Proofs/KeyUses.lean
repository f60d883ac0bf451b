import ClaimSeal.Custody
import ClaimSeal.Proofs.Backend
import ClaimSeal.Proofs.KeySigner.Faults

/-!
**A key is used once for each claim that is submitted.**

A key can be reached through many objects: signers and their copies, workers, and configurations.
Whatever is done with them, the record of the key tells what was submitted to them for signing.  No
other use shows up in it, and none is missing: not that of a signature which is then refused, and
not that of a request which is answered long after it was made.

Main definitions:

* `Custody.Kept` — all signers have the key that records its uses;
* `Custody.Records` — the uses for some submissions are recorded;
* `Custody.Balanced` — nothing that is requested gets lost, and nothing is submitted twice;
* `Custody.Accounted` — how the uses of a key are accounted for.

Main results:

* `Custody.records_step`, `Custody.records_run` — what commands add to the record;
* `Custody.balanced_step`, `Custody.balanced_run` — what requests submit;
* `Custody.accounted` — **a key is used once for each claim that is submitted**.
-/

set_option autoImplicit false

namespace ClaimSeal

open Run Operation

variable {σ κ α γ : Type}

/-! ### The key that records its uses -/

namespace Custody

/-- Every signer with the key, wherever it is, has the key that records its uses. -/
structure Kept (d : Custody σ κ) : Prop where
  signers : ∀ s ∈ d.signers, s.key = d.key.recorded
  workers : ∀ s ∈ d.workers, s.key = d.key.recorded
  configs : ∀ s, some s ∈ d.configs → s.key = d.key.recorded
  requests : ∀ r ∈ d.requests, r.1.key = d.key.recorded

theorem kept_start (s : KeySigner σ κ) (w : World σ) : (start s w).Kept where
  signers := by
    intro s' hs'
    rw [List.mem_singleton.1 hs']
    rfl
  workers := fun s' hs' => absurd hs' List.not_mem_nil
  configs := fun s' hs' => absurd hs' List.not_mem_nil
  requests := fun r hr => absurd hr List.not_mem_nil

theorem Kept.signer {d : Custody σ κ} (hd : d.Kept) {j : Nat} (s : KeySigner (σ × List Use) κ)
    (h : d.signers[j]? = some s) : s.key = d.key.recorded :=
  hd.signers s (List.mem_of_getElem? h)

theorem Kept.worker {d : Custody σ κ} (hd : d.Kept) {t : Nat} (s : KeySigner (σ × List Use) κ)
    (h : d.workers[t]? = some s) : s.key = d.key.recorded :=
  hd.workers s (List.mem_of_getElem? h)

theorem Kept.withWorld {d : Custody σ κ} (hd : d.Kept) (w : World (σ × List Use)) :
    Kept { d with world := w } :=
  ⟨hd.signers, hd.workers, hd.configs, hd.requests⟩

theorem Kept.workWith {d : Custody σ κ} (hd : d.Kept) (found : Option γ)
    (work : γ → Operation (σ × List Use) α) : (d.workWith found work).Kept := by
  cases found with
  | none => exact hd
  | some g => exact hd.withWorld _

theorem Kept.add {d : Custody σ κ} (hd : d.Kept) {found : Option (KeySigner (σ × List Use) κ)}
    (hkey : ∀ s, found = some s → s.key = d.key.recorded) : (d.add found).Kept := by
  cases found with
  | none => exact hd
  | some s =>
      refine { hd with signers := ?_ }
      intro s' hs'
      rcases List.mem_append.1 hs' with hs' | hs'
      · exact hd.signers s' hs'
      · rw [List.mem_singleton.1 hs']
        exact hkey s rfl

theorem Kept.setConfig {d : Custody σ κ} (hd : d.Kept) (c : Nat)
    {signer : Option (KeySigner (σ × List Use) κ)}
    (hkey : ∀ s, signer = some s → s.key = d.key.recorded) :
    Kept { d with configs := d.configs.set c signer } := by
  refine { hd with configs := ?_ }
  intro s hs
  rcases List.mem_or_eq_of_mem_set hs with hs | hs
  · exact hd.configs s hs
  · exact hkey s hs.symm

/-! ### What a command does to the record -/

/-- From one custody to another, the uses for some submissions are recorded and no others. -/
def Records (d : Custody σ κ) (submissions : List Submission) (d' : Custody σ κ) : Prop :=
  d'.uses = d.uses ++ submissions.map Submission.use

section Rules

variable {d d' d'' : Custody σ κ}

theorem records_of_kept (h : d'.world.backend = d.world.backend) : Records d [] d' := by
  rw [Records, uses, uses, h]
  exact (List.append_nil _).symm

theorem Records.trans {submissions submissions' : List Submission}
    (h : Records d submissions d') (h' : Records d' submissions' d'') :
    Records d (submissions ++ submissions') d'' := by
  rw [Records] at h h' ⊢
  rw [h', h, List.map_append, List.append_assoc]

/-- A signer that records its uses records the claim that it signs. -/
theorem records_of_sign {s : KeySigner (σ × List Use) κ} {claim : Bytes}
    (hs : s.key = d.key.recorded) (h : d'.world.backend = (s.sign claim d.world.backend).2) :
    Records d [s.submission claim] d' := by
  have hrecorded : s = KeySigner.recorded ⟨d.key, s.alg, s.tsaUrl, s.chain, s.ocsp⟩ := by
    rw [KeySigner.recorded, ← hs]
  rw [Records, uses, uses, h, hrecorded, KeySigner.sign_recorded]
  rfl

theorem records_workWith_of_kept {found : Option γ} {work : γ → Operation (σ × List Use) α}
    (hwork : ∀ g, (work g d.world).2.backend = d.world.backend) :
    Records d [] (d.workWith found work) := by
  cases found with
  | none => exact records_of_kept rfl
  | some g => exact records_of_kept (hwork g)

theorem records_workWith_of_sign {found : Option (KeySigner (σ × List Use) κ)}
    {work : KeySigner (σ × List Use) κ → Operation (σ × List Use) α} {claim : Bytes}
    (hkey : ∀ s, found = some s → s.key = d.key.recorded)
    (hwork : ∀ s, (work s d.world).2.backend = (s.sign claim d.world.backend).2) :
    Records d (found.toList.map (·.submission claim)) (d.workWith found work) := by
  cases found with
  | none => exact records_of_kept rfl
  | some s => exact records_of_sign (hkey s rfl) (hwork s)

theorem records_add (found : Option (KeySigner (σ × List Use) κ)) : Records d [] (d.add found) := by
  cases found <;> exact records_of_kept rfl

end Rules

/-- A command submits one claim at most. -/
theorem length_submitted_le (d : Custody σ κ) (command : Command κ) :
    (command.submitted d).length ≤ 1 := by
  have hfound : ∀ (found : Option (KeySigner (σ × List Use) κ)) (claim : Bytes),
      (found.toList.map (·.submission claim)).length ≤ 1 := by
    intro found claim
    cases found
    · exact Nat.zero_le 1
    · exact Nat.le_refl 1
  cases command with
  | call j call =>
      cases call with
      | sign claim => exact hfound _ _
      | _ => exact Nat.zero_le 1
  | signClaim j claim => exact hfound _ _
  | signInWorker t claim => exact hfound _ _
  | asyncSignClaim t claim => exact hfound _ _
  | turn i =>
      rw [Command.submitted]
      split <;> simp
  | signBytes c claim =>
      rw [Command.submitted]
      split <;> simp
  | signFile c claim signature =>
      rw [Command.submitted]
      split <;> simp
  | _ => exact Nat.zero_le 1

section Commands

variable [DecidableEq κ] {d : Custody σ κ} (hd : d.Kept)

include hd

theorem records_call (j : Nat) (call : Call) :
    Records d ((Command.call j call).submitted d) (d.step (.call j call)) := by
  cases call with
  | sign claim =>
      exact records_workWith_of_sign hd.signer fun s =>
        KeySigner.backend_perform_sign s claim d.world
  | _ => exact records_workWith_of_kept fun s => rfl

theorem records_turn (i : Nat) : Records d ((Command.turn i).submitted d) (d.step (.turn i)) := by
  rw [step, Command.submitted]
  cases hi : d.requests[i]? with
  | none => exact records_of_kept rfl
  | some request =>
      obtain ⟨s, stage⟩ := request
      cases stage with
      | waiting claim => exact records_of_kept rfl
      | handedOver claim reserved =>
          exact records_of_sign (hd.requests _ (List.mem_of_getElem? hi)) rfl
      | answered claim reserved answer =>
          exact records_of_kept (AsyncSigner.keepsBackend_conclude claim reserved answer d.world)
      | done reserved result => exact records_of_kept rfl

theorem records_signBytes (c : Nat) (claim : Bytes) :
    Records d ((Command.signBytes c claim).submitted d) (d.step (.signBytes c claim)) := by
  rw [step, config?, Command.submitted]
  cases hc : d.configs[c]? with
  | none => exact records_of_kept rfl
  | some signer =>
      cases signer with
      | none => exact records_of_kept rfl
      | some s =>
          exact records_of_sign (hd.configs s (List.mem_of_getElem? hc))
            (KeySigner.backend_signBytes s claim d.world)

theorem records_signFile (c : Nat) (claim signature : PathArg) :
    Records d ((Command.signFile c claim signature).submitted d)
      (d.step (.signFile c claim signature)) := by
  rw [step, config?, Command.submitted]
  cases hc : d.configs[c]? with
  | none => exact records_of_kept rfl
  | some signer =>
      have hbackend := fun g : Config (σ × List Use) => g.backend_sign claim signature d.world
      cases hcontent : d.world.files.contentAt (fun _ => .file) claim with
      | error e =>
          rw [hcontent] at hbackend
          cases signer <;> exact records_of_kept (hbackend _)
      | ok content =>
          rw [hcontent] at hbackend
          cases signer with
          | none => exact records_of_kept (hbackend _)
          | some s =>
              exact records_of_sign (hd.configs s (List.mem_of_getElem? hc))
                ((hbackend _).trans (KeySigner.backend_signBytes s content d.world))

/-- **What a command does to the record**: it adds the uses for the claims that it submits. -/
theorem records_step (command : Command κ) :
    Records d (command.submitted d) (d.step command) := by
  cases command with
  | call j call => exact records_call hd j call
  | turn i => exact records_turn hd i
  | signBytes c claim => exact records_signBytes hd c claim
  | signFile c claim signature => exact records_signFile hd c claim signature
  | signClaim j claim =>
      exact records_workWith_of_sign hd.signer fun s => KeySigner.backend_signClaim s claim d.world
  | signInWorker t claim => exact records_workWith_of_sign hd.worker fun s => rfl
  | asyncSignClaim t claim =>
      refine records_workWith_of_sign hd.worker fun s => ?_
      rw [AsyncSigner.signClaim, Signer.signClaimUnder_threaded_snd]
      exact KeySigner.backend_signClaim s claim d.world
  | build certs alg tsaUrl ocsp =>
      rw [step, KeySigner.build_apply]
      cases KeySigner.assemble d.key.recorded certs alg tsaUrl ocsp <;> exact records_of_kept rfl
  | withOcsp j response => exact records_add _
  | reserveInWorker t => exact records_workWith_of_kept fun s => rfl
  | useSigner c j =>
      rw [step]
      cases d.signers[j]? <;> exact records_of_kept rfl
  | hire j => exact records_of_kept rfl
  | request t claim => exact records_of_kept rfl
  | configure => exact records_of_kept rfl
  | usePlaceholder c => exact records_of_kept rfl

/-! ### The key stays with the signers -/

theorem kept_step (command : Command κ) : (d.step command).Kept := by
  cases command with
  | build certs alg tsaUrl ocsp =>
      refine (hd.withWorld _).add fun s hs => ?_
      exact KeySigner.key_of_build (Outcome.toOption_eq_some_iff.1 hs)
  | withOcsp j response =>
      refine hd.add fun s' hs' => ?_
      obtain ⟨s, hs, hresponse⟩ := Option.bind_eq_some_iff.1 hs'
      have hkey := KeySigner.key_of_withOcsp (Outcome.toOption_eq_some_iff.1 hresponse)
      exact hkey.trans (hd.signer s hs)
  | hire j =>
      refine { hd with workers := ?_ }
      intro s hs
      rcases List.mem_append.1 hs with hs | hs
      · exact hd.workers s hs
      · exact hd.signer s (Option.mem_toList.1 hs)
  | request t claim =>
      refine { hd with requests := ?_ }
      intro r hr
      rcases List.mem_append.1 hr with hr | hr
      · exact hd.requests r hr
      · obtain ⟨s, hs, rfl⟩ := List.mem_map.1 hr
        exact hd.worker s (Option.mem_toList.1 hs)
  | turn i =>
      rw [step]
      cases hi : d.requests[i]? with
      | none => exact hd
      | some request =>
          refine ⟨hd.signers, hd.workers, hd.configs, ?_⟩
          intro r hr
          rcases List.mem_or_eq_of_mem_set hr with hr | rfl
          · exact hd.requests r hr
          · exact hd.requests request (List.mem_of_getElem? hi)
  | configure =>
      refine { hd with configs := ?_ }
      intro s hs
      rcases List.mem_append.1 hs with hs | hs
      · exact hd.configs s hs
      · cases List.mem_singleton.1 hs
  | useSigner c j =>
      rw [step]
      cases hj : d.signers[j]? with
      | none => exact hd
      | some s => exact hd.setConfig c fun s' hs' => Option.some.inj hs' ▸ hd.signer s hj
  | usePlaceholder c => exact hd.setConfig c fun s' hs' => by cases hs'
  | call j call => exact hd.workWith _ _
  | signClaim j claim => exact hd.workWith _ _
  | reserveInWorker t => exact hd.workWith _ _
  | signInWorker t claim => exact hd.workWith _ _
  | asyncSignClaim t claim => exact hd.workWith _ _
  | signBytes c claim => exact hd.workWith _ _
  | signFile c claim signature => exact hd.workWith _ _

end Commands

/-! ### Runs -/

variable [DecidableEq κ]

theorem kept_run {d : Custody σ κ} (hd : d.Kept) (commands : List (Command κ)) :
    (run commands d).Kept := by
  induction commands generalizing d with
  | nil => exact hd
  | cons command commands ih => exact ih (kept_step hd command)

theorem records_run {d : Custody σ κ} (hd : d.Kept) (commands : List (Command κ)) :
    Records d (submitted commands d) (run commands d) := by
  induction commands generalizing d with
  | nil => exact records_of_kept rfl
  | cons command commands ih => exact (records_step hd command).trans (ih (kept_step hd command))

end Custody

/-! ### Requests submit their claims once -/

namespace Custody

/-- From one custody to another, what the request at a place submits and what it then has yet to
submit are together what it had to submit before, or what it was made for. -/
structure Balanced (i : Nat) (d : Custody σ κ) (submitted requested : List Submission)
    (d' : Custody σ κ) : Prop where
  length : d'.outstanding.length = d.outstanding.length + requested.length
  place : submitted ++ d'.outstanding[i]?.getD [] =
    (d.outstanding ++ requested.map fun s => [s])[i]?.getD []

variable {i : Nat} {d d' d'' : Custody σ κ}

theorem balanced_of_requests (h : d'.requests = d.requests) : Balanced i d [] [] d' where
  length := by rw [outstanding, outstanding, h]; rfl
  place := by rw [outstanding, outstanding, h, List.map_nil, List.append_nil, List.nil_append]

/-- What is in balance stays so when more is requested. -/
theorem Balanced.trans {submitted submitted' requested requested' : List Submission}
    (h : Balanced i d submitted requested d') (h' : Balanced i d' submitted' requested' d'') :
    Balanced i d (submitted ++ submitted') (requested ++ requested') d'' where
  length := by
    rw [h'.length, h.length, List.length_append, Nat.add_assoc]
  place := by
    have hlength : (d.outstanding ++ requested.map fun s => [s]).length = d'.outstanding.length :=
      by rw [List.length_append, List.length_map, h.length]
    rw [List.append_assoc, h'.place, List.map_append, ← List.append_assoc]
    rcases Nat.lt_or_ge i d'.outstanding.length with hi | hi
    · rw [List.getElem?_append_left hi, List.getElem?_append_left (hlength ▸ hi), h.place]
    · have hnone := h.place
      rw [List.getElem?_eq_none hi, List.getElem?_eq_none (hlength ▸ hi)] at hnone
      rw [List.getElem?_append_right hi, List.getElem?_append_right (hlength ▸ hi), hlength,
        (List.append_eq_nil_iff.1 hnone).1, List.nil_append]

theorem requests_workWith (d : Custody σ κ) (found : Option γ)
    (work : γ → Operation (σ × List Use) α) : (d.workWith found work).requests = d.requests := by
  cases found <;> rfl

theorem requests_add (d : Custody σ κ) (found : Option (KeySigner (σ × List Use) κ)) :
    (d.add found).requests = d.requests := by
  cases found <;> rfl

variable [DecidableEq κ]

/-- A signer with a key tells its reservation, so a turn submits a claim or leaves it pending. -/
theorem balanced_turn (d : Custody σ κ) (i j : Nat) :
    Balanced i d ((Command.turn j).submittedAt i d) [] (d.step (.turn j)) := by
  rw [Command.submittedAt, Command.submitted, step]
  cases hj : d.requests[j]? with
  | none =>
      rw [ite_self]
      exact balanced_of_requests rfl
  | some request =>
      obtain ⟨s, stage⟩ := request
      refine ⟨by simp [outstanding], ?_⟩
      simp only [outstanding, List.map_nil, List.append_nil, List.map_set, List.getElem?_set,
        List.length_map, List.getElem?_map]
      by_cases hij : j = i
      · obtain rfl := hij
        rw [if_pos rfl, if_pos rfl, hj, if_pos (List.getElem?_eq_some_iff.1 hj).1]
        cases stage <;> rfl
      · rw [if_neg hij, if_neg hij, List.nil_append]

theorem balanced_step (d : Custody σ κ) (i : Nat) (command : Command κ) :
    Balanced i d (command.submittedAt i d) (command.requested d) (d.step command) := by
  cases command with
  | turn j => exact balanced_turn d i j
  | request t claim =>
      have hpending : (d.step (.request t claim)).outstanding =
          d.outstanding ++ ((Command.request t claim).requested d).map fun s => [s] := by
        rw [outstanding, step, List.map_append, List.map_map, Command.requested, List.map_map]
        rfl
      refine ⟨?_, ?_⟩
      · rw [hpending, List.length_append, List.length_map]
      · rw [hpending]
        rfl
  | build certs alg tsaUrl ocsp => exact balanced_of_requests (requests_add _ _)
  | withOcsp j response => exact balanced_of_requests (requests_add _ _)
  | useSigner c j =>
      rw [step]
      cases d.signers[j]? <;> exact balanced_of_requests rfl
  | hire j => exact balanced_of_requests rfl
  | configure => exact balanced_of_requests rfl
  | usePlaceholder c => exact balanced_of_requests rfl
  | _ => exact balanced_of_requests (requests_workWith _ _ _)

theorem balanced_run (commands : List (Command κ)) (d : Custody σ κ) (i : Nat) :
    Balanced i d (submittedAt i commands d) (requested commands d) (run commands d) := by
  induction commands generalizing d with
  | nil => exact balanced_of_requests rfl
  | cons command commands ih => exact (balanced_step d i command).trans (ih (d.step command))

/-! ### One use for each claim -/

/-- How the uses of a key are accounted for after some commands. -/
structure Accounted (s : KeySigner σ κ) (w : World σ) (commands : List (Command κ)) : Prop where
  /-- With a key that records its uses the signer answers as it does else. -/
  answers : ∀ (claim : Bytes) (b : σ) (uses : List Use), s.recorded.sign claim (b, uses) =
    ((s.sign claim b).1, ((s.sign claim b).2, uses ++ [(s.submission claim).use]))
  /-- The key has been used for the claims that were submitted, in order, and for nothing else. -/
  uses : (run commands (start s w)).uses = (submitted commands (start s w)).map Submission.use
  /-- The next command submits one claim at most.  The key is used for that one, whatever becomes of
  the signature, and for nothing else. -/
  step : ∀ command : Command κ,
    (command.submitted (run commands (start s w))).length ≤ 1 ∧
      ((run commands (start s w)).step command).uses =
        (run commands (start s w)).uses ++
          (command.submitted (run commands (start s w))).map Submission.use
  /-- What a request has submitted and what it has yet to submit are together the one claim that it
  was made for. -/
  requests : ∀ i : Nat,
    submittedAt i commands (start s w) ++ (run commands (start s w)).outstanding[i]?.getD [] =
      (requested commands (start s w))[i]?.toList

/-- **A key is used once for each claim that is submitted**, and for nothing else: for every signer
and whatever is done with it, with its copies, and with the workers and configurations around them.
-/
theorem accounted (s : KeySigner σ κ) (w : World σ) (commands : List (Command κ)) :
    Accounted s w commands where
  answers := s.sign_recorded
  uses := records_run (kept_start s w) commands
  step command :=
    ⟨length_submitted_le _ command, records_step (kept_run (kept_start s w) commands) command⟩
  requests i := by
    have hstart : (start s w).outstanding = [] := rfl
    rw [(balanced_run commands (start s w) i).place, hstart, List.nil_append, List.getElem?_map]
    cases (requested commands (start s w))[i]? <;> rfl

/-- A signature that is refused took one use. -/
example : (run [.signClaim 0 [1], .call 0 .certs]
    (start KeySigner.Sample.wideSigner KeySigner.Sample.world)).uses =
      [⟨.ecdsa .sha256, [1]⟩] := by
  rfl

end Custody

end ClaimSeal

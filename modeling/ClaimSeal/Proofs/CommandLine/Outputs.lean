import ClaimSeal.Proofs.CommandLine.Runs
import ClaimSeal.Proofs.Metadata

/-!
**The files that a run leaves.**

A run that fails leaves the files as they were, with one exception.  Once the claim is signed its
signature is in place; if the metadata cannot be written then, the file at the path of the signature
is removed, and with it what was there before the run.  This is so on every steady disk, which may
refuse to write, but does not stop in the middle of a file and lets a new file be removed.

A run that succeeds leaves the metadata at their path, and the signature at its own.  The metadata
are written last, so they are what is left if both paths lead to the same place.

Main definitions:

* `FailedRun` — the files that a run leaves when it fails;
* `Job.Delivered` — the files that a run with metadata leaves when it succeeds.

Main results:

* `failedRun_of_exit_ne_zero` — **a run that fails leaves no outputs**;
* `delivered_of_exit_eq_zero` — **a run that succeeds delivers the metadata**, and the signature
  unless both have the same place.
-/

set_option autoImplicit false

namespace ClaimSeal

open Run Operation

namespace CommandLine

/-! ### Runs that fail -/

/-- The files that a run leaves when it fails, by the files that were there before. -/
inductive FailedRun (d : Disk Unit) (call : Call) (files : FileStore) : FileStore → Prop
  /-- All files are as they were. -/
  | untouched : FailedRun d call files files
  /-- The claim was signed and the metadata could not be written: there is no file at the path of
  the signature, and all others are as they were. -/
  | unsigned {job : Job} {claim : SignedClaim} {w : World Unit} {p : Path} {f : Failure}
      {l : Location} (hjob : jobOf call = .ok job)
      (hsign : job.signOn d ⟨files, [], ()⟩ = (.ok claim, w)) (hmetadata : job.metadata = some p)
      (hwrite : d.write p (claim.toJson.flatMap Utf8.encodePoint) w = (.error f, w))
      (hf : f.isSystem = true) (hl : files.LeadsTo job.signature l) :
      FailedRun d call files (files.erase l)
  /-- The metadata has a path that no file operation takes, and no operating system passes. -/
  | unpassable {job : Job} {p : Path} {e : PathFault} {left : FileStore}
      (hjob : jobOf call = .ok job) (hmetadata : job.metadata = some p)
      (hpath : p.toSystem = .error e) (hcall : ¬ call.IsPassable) : FailedRun d call files left

/-- **A run that fails leaves no outputs**: the files are as they were, but for the file at the path
of the signature once it has been written and taken back. -/
theorem failedRun_of_exit_ne_zero {d : Disk Unit} (hd : d.Steady) {call : Call} {files : FileStore}
    (hexit : (runOn d call files).1.exit ≠ 0) : FailedRun d call files (runOn d call files).2 := by
  cases hjob : jobOf call with
  | error report =>
      rw [runOn, hjob]
      exact .untouched
  | ok job =>
      obtain ⟨r, w, hcourse, hrun⟩ := exists_course_of_jobOf d hjob files
      rw [hrun] at hexit ⊢
      cases hcourse with
      | failed hsign hf =>
          rw [job.sparesFiles_signOn hd _ _ _ hsign]
          exact .untouched
      | stopped hsign hf =>
          rw [job.sparesFiles_signOn hd _ _ _ hsign]
          exact .untouched
      | signed hsign hmetadata => exact absurd (Job.exit_report_eq_zero_iff.2 rfl) hexit
      | written hsign hmetadata hwrite => exact absurd (Job.exit_report_eq_zero_iff.2 rfl) hexit
      | undone hsign hmetadata hwrite hf hremove =>
          obtain ⟨rfl, _⟩ := hd.refused hwrite
          obtain ⟨l, hl, hput, hremoved⟩ := job.files_of_signOn hd hsign
          obtain ⟨_, rfl⟩ := ok_eq_ok_iff.1 (hremoved.symm.trans hremove)
          rw [hput, FileStore.erase_put]
          exact .unsigned hjob hsign hmetadata hwrite hf hl
      | stuck hsign hmetadata hwrite hf hremove =>
          -- what has just been written can be removed
          obtain ⟨rfl, _⟩ := hd.refused hwrite
          obtain ⟨l, _, _, hremoved⟩ := job.files_of_signOn hd hsign
          exact absurd (hremove.symm.trans hremoved) error_ne_ok
      | broken hsign hmetadata hwrite hf =>
          obtain ⟨_, hsystem | ⟨e, hpath, _⟩⟩ := hd.refused hwrite
          · rw [hf] at hsystem
            cases hsystem
          · refine .unpassable hjob hmetadata hpath fun hcall => ?_
            obtain ⟨sys, hsys⟩ := exists_toSystem_of_jobOf hcall hjob hmetadata
            rw [hsys] at hpath
            cases hpath

/-- Metadata that should go into a directory that is missing, next to an earlier signature. -/
def missingDirectory : Call × FileStore :=
  (placing (txt "s") (txt "d/m"), workingWith [(ascii "c", ascii "x"), (ascii "s", ascii "old")])

set_option maxRecDepth 4000 in
theorem run_missingDirectory :
    (run missingDirectory.1 missingDirectory.2).1.exit = 1 ∧
      (run missingDirectory.1 missingDirectory.2).2 = workingWith [(ascii "c", ascii "x")] := by
  rw [missingDirectory, run, runOn, jobOf_placing]
  exact ⟨rfl, rfl⟩

theorem exit_missingDirectory :
    (runOn .store missingDirectory.1 missingDirectory.2).1.exit ≠ 0 := by
  rw [← run, run_missingDirectory.1]
  decide

theorem failedRun_missingDirectory :
    (Disk.store : Disk Unit).Steady ∧
      (runOn .store missingDirectory.1 missingDirectory.2).1.exit ≠ 0 ∧
      FailedRun .store missingDirectory.1 missingDirectory.2
        (runOn .store missingDirectory.1 missingDirectory.2).2 :=
  ⟨Disk.steady_store, exit_missingDirectory,
    failedRun_of_exit_ne_zero Disk.steady_store exit_missingDirectory⟩

/-- Not all files need to stay: the earlier signature is gone. -/
theorem not_forall_kept_of_exit_ne_zero :
    ¬ ∀ (call : Call) (files : FileStore), (run call files).1.exit ≠ 0 →
      ∀ l, (run call files).2.content? l = files.content? l := by
  intro h
  have hexit : (run missingDirectory.1 missingDirectory.2).1.exit ≠ 0 := by
    rw [run]
    exact exit_missingDirectory
  have hkept := h missingDirectory.1 missingDirectory.2 hexit [ascii "work", ascii "s"]
  rw [run_missingDirectory.2] at hkept
  revert hkept
  decide

/-! ### Runs that succeed -/

/-- What a job that has succeeded leaves for a claim, signed from the files `files` on, when it was
asked for metadata at the path `p`. -/
structure Job.Delivered (j : Job) (p : Path) (claim : SignedClaim) (files left : FileStore) :
    Prop where
  /-- The claim is what signing gives. -/
  signed : (j.sign ⟨files, [], ()⟩).1 = .ok claim
  /-- The metadata are at their path. -/
  metadata : left.Holds p (metadataFile claim)
  /-- The file with the metadata holds the text of the claim. -/
  text : Utf8.decode? (metadataFile claim) = some claim.toJson
  /-- The text of the claim holds the signature. -/
  signature : SignedClaim.signatureIn? claim.toJson = some claim.signature
  /-- The signature is at its path, unless the metadata have the same place. -/
  outputs : ∃ l m, files.LeadsTo j.signature l ∧ files.LeadsTo p m ∧
    left.content? l = some (if l = m then metadataFile claim else claim.signature)

/-- **A run that succeeds delivers the metadata**, and with it the signature unless both paths lead
to the same place. -/
theorem delivered_of_exit_eq_zero {call : Call} {job : Job} {p : Path} {files : FileStore}
    (hjob : jobOf call = .ok job) (hmetadata : job.metadata = some p)
    (hexit : (run call files).1.exit = 0) :
    ∃ claim, job.Delivered p claim files (run call files).2 := by
  obtain ⟨r, w, hcourse, hrun⟩ := exists_course_of_jobOf .store hjob files
  rw [run, hrun] at hexit ⊢
  cases Job.exit_report_eq_zero_iff.1 hexit
  cases hcourse with
  | signed hsign hnone =>
      rw [hmetadata] at hnone
      cases hnone
  | @written claim v u q hsign hsome hwrite =>
      rw [hmetadata] at hsome
      cases hsome
      obtain ⟨l, hl, hput, _⟩ := job.files_of_signOn Disk.steady_store hsign
      obtain ⟨m, hm, rfl⟩ := Disk.steady_store.written hwrite
      refine ⟨claim, ?_⟩
      exact {
        signed := by rw [Job.sign, hsign]
        metadata := hm.holds_put _
        text := decode?_metadataFile claim
        signature := claim.signatureIn?_toJson
        outputs := by
          rw [hput] at hm ⊢
          refine ⟨l, m, hl, FileStore.leadsTo_put_iff.1 hm, ?_⟩
          split
          · next heq => rw [heq, FileStore.content?_put_self, metadataFile]
          · next hne => rw [FileStore.content?_put_of_ne hne, FileStore.content?_put_self] }

set_option maxRecDepth 4000 in
theorem exit_placing :
    (run (placing (txt "s") (txt "m")) (workingWith [(ascii "c", ascii "x")])).1.exit = 0 := by
  rw [run, runOn, jobOf_placing]
  rfl

theorem delivered_placing :
    jobOf (placing (txt "s") (txt "m")) = .ok (placingJob (txt "s") (txt "m")) ∧
      (placingJob (txt "s") (txt "m")).metadata = some (Path.parse (txt "m")) ∧
      (run (placing (txt "s") (txt "m")) (workingWith [(ascii "c", ascii "x")])).1.exit = 0 ∧
      ∃ claim, (placingJob (txt "s") (txt "m")).Delivered (Path.parse (txt "m")) claim
        (workingWith [(ascii "c", ascii "x")])
        (run (placing (txt "s") (txt "m")) (workingWith [(ascii "c", ascii "x")])).2 :=
  ⟨jobOf_placing _ _, rfl, exit_placing,
    delivered_of_exit_eq_zero (jobOf_placing _ _) rfl exit_placing⟩

/-- A call with one path for the signature and the metadata. -/
def samePath : Call × FileStore :=
  (placing (txt "out") (txt "out"), workingWith [(ascii "c", ascii "x")])

set_option maxRecDepth 4000 in
theorem exit_samePath : (run samePath.1 samePath.2).1.exit = 0 := by
  rw [samePath, run, runOn, jobOf_placing]
  rfl

set_option maxRecDepth 4000 in
theorem signature_samePath {claim : SignedClaim}
    (h : ((placingJob (txt "out") (txt "out")).sign ⟨samePath.2, [], ()⟩).1 = .ok claim) :
    claim.signature = invalidSignature := by
  have hsigned : (((placingJob (txt "out") (txt "out")).sign ⟨samePath.2, [], ()⟩).1.map
      SignedClaim.signature) = .ok invalidSignature := by rfl
  rw [h] at hsigned
  exact Except.ok.inj hsigned

/-- The signature need not be there: the metadata may have its place. -/
theorem not_forall_outputs_of_exit_eq_zero :
    ¬ ∀ (call : Call) (job : Job) (p : Path) (files : FileStore), jobOf call = .ok job →
      job.metadata = some p → (run call files).1.exit = 0 →
      ∃ claim, (job.sign ⟨files, [], ()⟩).1 = .ok claim ∧
        (run call files).2.Holds p (metadataFile claim) ∧
        (run call files).2.Holds job.signature claim.signature := by
  intro h
  obtain ⟨claim, hsigned, ⟨l, hl, hmetadata⟩, ⟨m, hm, hsignature⟩⟩ :=
    h samePath.1 _ _ samePath.2 (jobOf_placing _ _) rfl exit_samePath
  rw [hm.unique hl, hmetadata, signature_samePath hsigned] at hsignature
  -- the metadata start with a brace, whatever the claim is
  have hbrace : (metadataFile claim).head? = some 123 := by rfl
  rw [Option.some.inj hsignature] at hbrace
  revert hbrace
  decide

end CommandLine

end ClaimSeal

import ClaimSeal.Proofs.CommandLine.Printing
import ClaimSeal.Proofs.CommandLine.Values
import ClaimSeal.Proofs.SignedFile

/-!
**What a run of the program does.**

A command line that passes the reading of its options leads to a signing command and asks for a job.
A job is the library's own signing of a file, followed by the writing of the metadata.  This module
says in which ways a job can end, and derives from that how a run of the program relates to the
library, whatever the disk does.

A failure is told as it is shown where no terminal is: without the sequences that control one, and
with numbers in place of lone surrogates.

Main definitions:

* `Call.Asks` — what a call asks the library for;
* `Job.Course` — the ways in which a job can end;
* `Job.Agrees` — what a run shows and leaves, given what the library gives and leaves;
* `placing`, `certified` — calls that sign with a placeholder and with a key.

Main results:

* `asks_of_jobOf` — a job is what the words of the call ask for;
* `Job.course` — there are no other ways to end;
* `run_agrees` — **a run agrees with the library**;
* `runOn_of_stuck` — a signature that cannot be removed again.
-/

set_option autoImplicit false

namespace ClaimSeal

open Run Operation

namespace CommandLine

/-! ### What a call asks for -/

/-- What a call asks the library for: to sign the file that the argument names, with a placeholder
or with a key, as the words of the call say. -/
inductive Call.Asks (d : Disk Unit) (call : Call) (job : Job) : Operation Unit SignedClaim → Prop
  | placeholder {scan : Scan} (hsorts : call.Sorts placeholder scan) (hjob : scan.GivesJob job) :
      Call.Asks d call job (Config.initial.usePlaceholder.signOn d 0 (.path job.claim)
        (.path job.signature))
  | key {scan : Scan} {o : KeyOptions} (hsorts : call.Sorts key scan) (hjob : scan.GivesJob job)
      (hkey : scan.GivesKey o) :
      Call.Asks d call job (do
        let config ← Config.initial.useKey o
        config.signOn d 0 (.path job.claim) (.path job.signature))

/-- A job is what the words of the call ask for. -/
theorem asks_of_jobOf {call : Call} {job : Job} (d : Disk Unit) (h : jobOf call = .ok job) :
    call.Asks d job (job.signOn d) := by
  obtain ⟨c, top, s, hselects, hwhich⟩ := selects_of_jobOf h
  obtain ⟨method, scan, hmem, hsorts, hsettle, huses⟩ := Call.exists_sorts_of_selects hselects
  rcases hwhich with ⟨rfl, rfl⟩ | ⟨rfl, rfl⟩
  · exact .key hsorts (givesJob_of_settle hmem huses hsettle _ _) (givesKey_of_settle huses hsettle)
  · exact .placeholder hsorts (givesJob_of_settle hmem huses hsettle _ _)

/-! ### The signature of a job -/

section Signing

variable {d : Disk Unit} {j : Job} {w v : World Unit} {claim : SignedClaim}

/-- Choosing a signer leaves the files as they are. -/
theorem Job.keepsFiles_configure (j : Job) : KeepsFiles j.configure := by
  unfold configure
  cases j.method with
  | placeholder => exact keepsFiles_pure _
  | key o => exact Config.keepsFiles_useKey _ o

/-- A job that fails to sign leaves the files as they were. -/
theorem Job.sparesFiles_signOn (hd : d.Steady) (j : Job) : SparesFiles (j.signOn d) :=
  j.keepsFiles_configure.bind_spares fun config => config.sparesFiles_signOn hd 0 _ _

/-- A job that signs writes the signature, and changes the files in no other way. -/
theorem Job.write_of_signOn (h : j.signOn d w = (.ok claim, v)) :
    ∃ before after, before.files = w.files ∧
      d.write j.signature claim.signature before = (.ok (), after) ∧ v.files = after.files := by
  obtain ⟨config, u, hconfig, hsign⟩ := bind_eq_ok_iff.1 h
  obtain ⟨p, q, data, before, after, _, _, hsigned, hq, hwrite, rfl⟩ :=
    Config.signOn_eq_ok_iff.1 hsign
  have hu : u.files = w.files := by
    have hkept := j.keepsFiles_configure w
    rwa [hconfig] at hkept
  have hbefore : before.files = u.files := by
    have hkept := config.keepsFiles_signBytesUnder 0 data u
    rwa [hsigned] at hkept
  rw [PathArg.toPath_path] at hq
  cases hq
  exact ⟨before, after, hbefore.trans hu, hwrite, rfl⟩

/-- On a steady disk a job that signs puts the signature where its path leads, and the signature can
be removed again. -/
theorem Job.files_of_signOn (hd : d.Steady) (h : j.signOn d w = (.ok claim, v)) :
    ∃ l, w.files.LeadsTo j.signature l ∧ v.files = w.files.put l claim.signature ∧
      d.remove j.signature v = (.ok (), { v with files := v.files.erase l }) := by
  obtain ⟨before, after, hbefore, hwrite, hv⟩ := write_of_signOn h
  obtain ⟨l, hl, rfl⟩ := hd.written hwrite
  have hlv : v.files.LeadsTo j.signature l := by
    rw [hv]
    exact FileStore.leadsTo_put_iff.2 hl
  refine ⟨l, hbefore ▸ hl, ?_, hd.removed hwrite hv hlv⟩
  rw [hv, hbefore]

end Signing

/-! ### How a job ends -/

section Endings

variable {d : Disk Unit} {j : Job} {w v u x : World Unit} {claim : SignedClaim} {p : Path}
variable {f : Failure}

/-- The claim is not signed: that is what comes of the job, if it may be handled. -/
theorem Job.performOn_of_error (hsign : j.signOn d w = (.error f, v)) :
    j.performOn d w = (if f.isOrdinary then .ok (.error f) else .error f, v) := by
  rw [performOn, bind_apply, outcome_apply, hsign]
  cases hf : f.isOrdinary with
  | true => simp only [hf, if_true]; rfl
  | false => simp only [hf]; rfl

/-- The claim is signed, and no metadata is asked for. -/
theorem Job.performOn_of_signed (hsign : j.signOn d w = (.ok claim, v))
    (hmetadata : j.metadata = none) : j.performOn d w = (.ok (.ok ()), v) := by
  rw [performOn, bind_apply, outcome_apply, hsign]
  dsimp only
  rw [hmetadata]
  rfl

theorem Job.performOn_of_metadata (hsign : j.signOn d w = (.ok claim, v))
    (hmetadata : j.metadata = some p) : j.performOn d w = j.writeMetadataOn d p claim v := by
  rw [performOn, bind_apply, outcome_apply, hsign]
  dsimp only
  rw [hmetadata]

/-- The claim is signed and the metadata is written. -/
theorem Job.performOn_of_written (hsign : j.signOn d w = (.ok claim, v))
    (hmetadata : j.metadata = some p)
    (hwrite : d.write p (claim.toJson.flatMap Utf8.encodePoint) v = (.ok (), u)) :
    j.performOn d w = (.ok (.ok ()), u) := by
  rw [performOn_of_metadata hsign hmetadata, writeMetadataOn, metadataFile, bind_apply,
    outcome_apply, hwrite]
  rfl

/-- The claim is signed and writing the metadata fails. -/
theorem Job.performOn_of_unwritten (hsign : j.signOn d w = (.ok claim, v))
    (hmetadata : j.metadata = some p)
    (hwrite : d.write p (claim.toJson.flatMap Utf8.encodePoint) v = (.error f, u)) :
    j.performOn d w =
      if f.isSystem then (d.remove j.signature >>= fun _ => pure (.error f)) u
      else (.error f, u) := by
  rw [performOn_of_metadata hsign hmetadata, writeMetadataOn, metadataFile, bind_apply,
    outcome_apply, hwrite]
  cases hf : f.isSystem with
  | true => simp only [hf, if_true]
  | false => simp only [hf]; rfl

/-- The claim is signed, writing the metadata fails and the signature is removed. -/
theorem Job.performOn_of_undone (hsign : j.signOn d w = (.ok claim, v))
    (hmetadata : j.metadata = some p)
    (hwrite : d.write p (claim.toJson.flatMap Utf8.encodePoint) v = (.error f, u))
    (hf : f.isSystem = true) (hremove : d.remove j.signature u = (.ok (), x)) :
    j.performOn d w = (.ok (.error f), x) := by
  rw [performOn_of_unwritten hsign hmetadata hwrite, if_pos hf, bind_apply, hremove]
  rfl

end Endings

/-- The ways in which a job can end, from the world `w` on. -/
inductive Job.Course (d : Disk Unit) (j : Job) (w : World Unit) :
    Except Failure (Except Failure Unit) → World Unit → Prop
  | failed {f : Failure} {v : World Unit} (hsign : j.signOn d w = (.error f, v))
      (hf : f.isOrdinary = true) : Job.Course d j w (.ok (.error f)) v
  | stopped {f : Failure} {v : World Unit} (hsign : j.signOn d w = (.error f, v))
      (hf : f.isOrdinary = false) : Job.Course d j w (.error f) v
  | signed {claim : SignedClaim} {v : World Unit} (hsign : j.signOn d w = (.ok claim, v))
      (hmetadata : j.metadata = none) : Job.Course d j w (.ok (.ok ())) v
  | written {claim : SignedClaim} {v u : World Unit} {p : Path}
      (hsign : j.signOn d w = (.ok claim, v)) (hmetadata : j.metadata = some p)
      (hwrite : d.write p (claim.toJson.flatMap Utf8.encodePoint) v = (.ok (), u)) :
      Job.Course d j w (.ok (.ok ())) u
  | undone {claim : SignedClaim} {v u x : World Unit} {p : Path} {f : Failure}
      (hsign : j.signOn d w = (.ok claim, v)) (hmetadata : j.metadata = some p)
      (hwrite : d.write p (claim.toJson.flatMap Utf8.encodePoint) v = (.error f, u))
      (hf : f.isSystem = true) (hremove : d.remove j.signature u = (.ok (), x)) :
      Job.Course d j w (.ok (.error f)) x
  | stuck {claim : SignedClaim} {v u x : World Unit} {p : Path} {f g : Failure}
      (hsign : j.signOn d w = (.ok claim, v)) (hmetadata : j.metadata = some p)
      (hwrite : d.write p (claim.toJson.flatMap Utf8.encodePoint) v = (.error f, u))
      (hf : f.isSystem = true) (hremove : d.remove j.signature u = (.error g, x)) :
      Job.Course d j w (.error g) x
  | broken {claim : SignedClaim} {v u : World Unit} {p : Path} {f : Failure}
      (hsign : j.signOn d w = (.ok claim, v)) (hmetadata : j.metadata = some p)
      (hwrite : d.write p (claim.toJson.flatMap Utf8.encodePoint) v = (.error f, u))
      (hf : f.isSystem = false) : Job.Course d j w (.error f) u

/-- A job ends in one of these ways. -/
theorem Job.course (d : Disk Unit) (j : Job) (w : World Unit) :
    Course d j w (j.performOn d w).1 (j.performOn d w).2 := by
  rcases hsign : j.signOn d w with ⟨f | claim, v⟩
  · rw [performOn_of_error hsign]
    cases hf : f.isOrdinary with
    | true => exact .failed hsign hf
    | false => exact .stopped hsign hf
  · cases hmetadata : j.metadata with
    | none =>
        rw [performOn_of_signed hsign hmetadata]
        exact .signed hsign hmetadata
    | some p =>
        rcases hwrite : d.write p (claim.toJson.flatMap Utf8.encodePoint) v with ⟨f | _, u⟩
        · cases hf : f.isSystem with
          | true =>
              rcases hremove : d.remove j.signature u with ⟨g | _, x⟩
              · rw [performOn_of_unwritten hsign hmetadata hwrite, if_pos hf, bind_apply, hremove]
                exact .stuck hsign hmetadata hwrite hf hremove
              · rw [performOn_of_undone hsign hmetadata hwrite hf hremove]
                exact .undone hsign hmetadata hwrite hf hremove
          | false =>
              rw [performOn_of_unwritten hsign hmetadata hwrite, if_neg (by rw [hf]; decide)]
              exact .broken hsign hmetadata hwrite hf
        · rw [performOn_of_written hsign hmetadata hwrite]
          exact .written hsign hmetadata hwrite

/-! ### Runs -/

/-- A run that does a job reports what comes of it and leaves the files as the job does. -/
theorem runOn_of_performOn {d : Disk Unit} {call : Call} {job : Job} {files : FileStore}
    {r : Except Failure (Except Failure Unit)} {w : World Unit} (hjob : jobOf call = .ok job)
    (h : job.performOn d ⟨files, [], ()⟩ = (r, w)) :
    runOn d call files = ((job.report w.log r).shown, w.files) := by
  rw [runOn, hjob]
  dsimp only
  rw [h]

/-- A run that does a job ends in one of the ways in which a job can end. -/
theorem exists_course_of_jobOf {call : Call} {job : Job} (d : Disk Unit)
    (hjob : jobOf call = .ok job) (files : FileStore) :
    ∃ r w, job.Course d ⟨files, [], ()⟩ r w ∧
      runOn d call files = ((job.report w.log r).shown, w.files) :=
  ⟨_, _, job.course d _, runOn_of_performOn hjob rfl⟩

/-- The error output: the log lines that are shown, and a text after them. -/
def Job.errorOutput (j : Job) (log : List LogLine) (text : Text) : Text :=
  (shownLines j.level log ++ text).flatMap shownPoint

/-- What is reported of a failure: it is told on the error output alone. -/
def Job.failureReport (j : Job) (log : List LogLine) (f : Failure) : Report :=
  ⟨1, [], j.errorOutput log
    (echoed (txt "Signing failed with error: " ++ f.message ++ newline))⟩

/-- What is reported of success. -/
def Job.successReport (j : Job) (log : List LogLine) : Report :=
  ⟨0, txt "Signing succeeded\n", j.errorOutput log []⟩

theorem Job.report_failed (j : Job) (log : List LogLine) (f : Failure) :
    (j.report log (.ok (.error f))).shown = j.failureReport log f := rfl

theorem Job.report_done (j : Job) (log : List LogLine) :
    (j.report log (.ok (.ok ()))).shown = j.successReport log := by
  simp only [report, Report.shown, successReport, errorOutput, List.append_nil]

/-- The exit code is zero for a job that is done, and for no other. -/
theorem Job.exit_report_eq_zero_iff {j : Job} {log : List LogLine}
    {r : Except Failure (Except Failure Unit)} :
    (j.report log r).shown.exit = 0 ↔ r = .ok (.ok ()) := by
  rcases r with f | f | _
  · exact ⟨fun h => absurd h Nat.one_ne_zero, nofun⟩
  · exact ⟨fun h => absurd h Nat.one_ne_zero, nofun⟩
  · exact ⟨fun _ => rfl, fun _ => rfl⟩

/-- What a run shows, and the files that it leaves, when the library gives `r` for its job and
leaves the world `w`.  The metadata of a signed claim are its text as a file. -/
structure Job.Agrees (d : Disk Unit) (j : Job) (r : Except Failure SignedClaim) (w : World Unit)
    (result : Report × FileStore) : Prop where
  /-- A failure is told, and the files are those that the library left. -/
  failed : ∀ f, r = .error f → f.isOrdinary = true →
    result = (j.failureReport w.log f, w.files)
  /-- Without metadata the files of a signed claim are those that the library left. -/
  signed : ∀ claim, r = .ok claim → j.metadata = none →
    result = (j.successReport w.log, w.files)
  /-- Metadata that can be written are written. -/
  written : ∀ claim p v, r = .ok claim → j.metadata = some p →
    d.write p (claim.toJson.flatMap Utf8.encodePoint) w = (.ok (), v) →
    result = (j.successReport v.log, v.files)
  /-- On a steady disk they are where their path leads, and all else is as the library left it. -/
  placed : d.Steady → ∀ claim p v, r = .ok claim → j.metadata = some p →
    d.write p (claim.toJson.flatMap Utf8.encodePoint) w = (.ok (), v) →
    ∃ m, w.files.LeadsTo p m ∧ result = (j.successReport w.log,
      w.files.put m (claim.toJson.flatMap Utf8.encodePoint))
  /-- If the system fails to write the metadata that is told, once the signature is removed. -/
  undone : ∀ claim p f v u, r = .ok claim → j.metadata = some p →
    d.write p (claim.toJson.flatMap Utf8.encodePoint) w = (.error f, v) → f.isSystem = true →
    d.remove j.signature v = (.ok (), u) → result = (j.failureReport u.log f, u.files)
  /-- On a steady disk it is, and all else is as the library left it. -/
  erased : d.Steady → ∀ claim p f v, r = .ok claim → j.metadata = some p →
    d.write p (claim.toJson.flatMap Utf8.encodePoint) w = (.error f, v) → f.isSystem = true →
    ∃ l, w.files.LeadsTo j.signature l ∧ result = (j.failureReport w.log f, w.files.erase l)

/-- **A run agrees with the library**, whatever the disk does.  A call that asks for a job asks the
library to sign a file; what the run shows, its exit code and the files that it leaves follow from
what the library gives and leaves on the same files. -/
theorem run_agrees {call : Call} {job : Job} (d : Disk Unit) (hjob : jobOf call = .ok job)
    (files : FileStore) :
    ∃ library, call.Asks d job library ∧
      job.Agrees d (library ⟨files, [], ()⟩).1 (library ⟨files, [], ()⟩).2
        (runOn d call files) := by
  refine ⟨job.signOn d, asks_of_jobOf d hjob, ?_⟩
  rcases hsign : job.signOn d ⟨files, [], ()⟩ with ⟨r, w⟩
  have hwritten : ∀ claim p v, r = .ok claim → job.metadata = some p →
      d.write p (claim.toJson.flatMap Utf8.encodePoint) w = (.ok (), v) →
      runOn d call files = (job.successReport v.log, v.files) := by
    rintro claim p v rfl hmetadata hwrite
    rw [runOn_of_performOn hjob (Job.performOn_of_written hsign hmetadata hwrite), job.report_done]
  have hundone : ∀ claim p f v u, r = .ok claim → job.metadata = some p →
      d.write p (claim.toJson.flatMap Utf8.encodePoint) w = (.error f, v) → f.isSystem = true →
      d.remove job.signature v = (.ok (), u) →
      runOn d call files = (job.failureReport u.log f, u.files) := by
    rintro claim p f v u rfl hmetadata hwrite hf hremove
    rw [runOn_of_performOn hjob (Job.performOn_of_undone hsign hmetadata hwrite hf hremove),
      job.report_failed]
  refine {
    failed := ?_
    signed := ?_
    written := hwritten
    placed := ?_
    undone := hundone
    erased := ?_ }
  · rintro f rfl hf
    rw [runOn_of_performOn hjob (Job.performOn_of_error hsign), if_pos hf, job.report_failed]
  · rintro claim rfl hmetadata
    rw [runOn_of_performOn hjob (Job.performOn_of_signed hsign hmetadata), job.report_done]
  · intro hd claim p v hr hmetadata hwrite
    obtain ⟨m, hm, rfl⟩ := hd.written hwrite
    exact ⟨m, hm, hwritten claim p _ hr hmetadata hwrite⟩
  · rintro hd claim p f v rfl hmetadata hwrite hf
    obtain ⟨rfl, _⟩ := hd.refused hwrite
    obtain ⟨l, hl, hput, hremove⟩ := job.files_of_signOn hd hsign
    refine ⟨l, ?_, hundone claim p f v _ rfl hmetadata hwrite hf hremove⟩
    rw [hput]
    exact FileStore.leadsTo_put_iff.2 hl

/-- If the signature cannot be removed either, the run breaks off: the failure is not told. -/
theorem runOn_of_stuck {d : Disk Unit} {call : Call} {job : Job} {files : FileStore}
    {claim : SignedClaim} {p : Path} {f g : Failure} {w v u : World Unit}
    (hjob : jobOf call = .ok job) (hsign : job.signOn d ⟨files, [], ()⟩ = (.ok claim, w))
    (hmetadata : job.metadata = some p)
    (hwrite : d.write p (claim.toJson.flatMap Utf8.encodePoint) w = (.error f, v))
    (hf : f.isSystem = true) (hremove : d.remove job.signature v = (.error g, u)) :
    runOn d call files = (⟨1, [], job.errorOutput u.log []⟩, u.files) := by
  have hperform : job.performOn d ⟨files, [], ()⟩ = (.error g, u) := by
    rw [Job.performOn_of_unwritten hsign hmetadata hwrite, if_pos hf, bind_apply, hremove]
  rw [runOn_of_performOn hjob hperform]
  simp only [Job.report, Report.shown, Job.errorOutput, List.append_nil]

/-! ### A call with a placeholder -/

/-- The call that signs the file `c` with a placeholder, with the given words for the paths of the
signature and of the metadata. -/
def placing (signature metadata : Text) : Call where
  program := txt "claim_signing"
  environment := []
  words := [txt "sign", txt "placeholder", txt "c", txt "--signature", signature,
    txt "--metadata", metadata]

/-- The job of that call. -/
def placingJob (signature metadata : Text) : Job where
  method := .placeholder
  claim := Path.parse (txt "c")
  signature := Path.parse signature
  metadata := some (Path.parse metadata)
  level := .info

set_option maxRecDepth 2000 in
theorem jobOf_placing (signature metadata : Text) :
    jobOf (placing signature metadata) = .ok (placingJob signature metadata) := by
  rfl

/-- A working directory with the given files. -/
def workingWith (entries : List (Bytes × Bytes)) : FileStore where
  here := [ascii "work"]
  dirs := []
  files := entries.map fun entry => ([ascii "work", entry.1], entry.2)

theorem run_agrees_placing :
    jobOf (placing (txt "s") (txt "m")) = .ok (placingJob (txt "s") (txt "m")) ∧
      ∃ library,
        (placing (txt "s") (txt "m")).Asks .store (placingJob (txt "s") (txt "m")) library ∧
        (placingJob (txt "s") (txt "m")).Agrees .store
          (library ⟨workingWith [(ascii "c", ascii "x")], [], ()⟩).1
          (library ⟨workingWith [(ascii "c", ascii "x")], [], ()⟩).2
          (runOn .store (placing (txt "s") (txt "m")) (workingWith [(ascii "c", ascii "x")])) :=
  ⟨jobOf_placing _ _, run_agrees .store (jobOf_placing _ _) _⟩

/-! ### A call with a key -/

/-- The call that signs the file `c` with the key `k`, with the given word for the path of the
certificates. -/
def certified (certificate : Text) : Call where
  program := txt "claim_signing"
  environment := []
  words := [txt "sign", txt "key", txt "c", txt "--private_key", txt "k",
    txt "--signing_certificate", certificate, txt "--alg", txt "es256"]

/-- The job of that call. -/
def certifiedJob (certificate : Text) : Job where
  method := .key {
    privateKey := .path (Path.parse (txt "k"))
    certificate := .path (Path.parse certificate)
    alg := .json (.str (txt "es256")) }
  claim := Path.parse (txt "c")
  signature := Path.parse (txt "claim.sig")
  metadata := none
  level := .info

set_option maxRecDepth 4000 in
theorem jobOf_certified (certificate : Text) :
    jobOf (certified certificate) = .ok (certifiedJob certificate) := by
  rfl

/-- A path that starts with a sequence which makes the letters after it bold. -/
def boldPath : Text := escapePoint :: txt "[1mx"

/-- What is said of certificates that are not there. -/
def missingCertificates : Failure :=
  .credential (.unreadable (Path.parse boldPath) ⟨.notFound, boldPath⟩)

set_option maxRecDepth 4000 in
theorem sign_certifiedJob_boldPath :
    ((certifiedJob boldPath).signOn .store ⟨workingWith [(ascii "c", ascii "x")], [], ()⟩).1 =
      .error missingCertificates := by
  rfl

set_option maxRecDepth 4000 in
theorem err_certified_boldPath :
    (run (certified boldPath) (workingWith [(ascii "c", ascii "x")])).1.err =
      txt ("Signing failed with error: Cannot read credentials from x: "
        ++ "[Errno 2] No such file or directory: '\\x1b[1mx'\n") := by
  rw [run, runOn, jobOf_certified]
  rfl

/-- A failure need not be told in its own words: sequences that control a terminal are left out. -/
theorem not_forall_message_told :
    ¬ ∀ (call : Call) (job : Job) (library : Operation Unit SignedClaim) (files : FileStore)
      (f : Failure), jobOf call = .ok job → call.Asks .store job library →
      (library ⟨files, [], ()⟩).1 = .error f → f.isOrdinary = true →
      txt "Signing failed with error: " ++ f.message ++ newline <:+ (run call files).1.err := by
  intro h
  have hsuffix := h _ _ _ _ _ (jobOf_certified boldPath) (asks_of_jobOf .store (jobOf_certified _))
    sign_certifiedJob_boldPath rfl
  rw [err_certified_boldPath] at hsuffix
  have hescape : escapePoint ∈
      txt "Signing failed with error: " ++ missingCertificates.message ++ newline := by decide
  have habsent := hsuffix.subset hescape
  revert habsent
  decide

end CommandLine

end ClaimSeal

import ClaimSeal.Proofs.FileNames
import ClaimSeal.Proofs.KeySigner.Stages

/-!
**Which files with credentials are told to be unreadable.**

A file with credentials is read, or the system does not let it be read, whatever the reason is; that
is told as an unusable credential.  Before the system is asked at all, what the caller has given has
to name a file.  A text or a byte string with a zero in it names none, and neither does a text with
a surrogate that stands for no byte: this gets out as a bad value, and so it does from whatever
reads its credentials from files.

Main definitions:

* `PathArg.IsNameable`, `PathArg.HasFault` — what names a file, and what is wrong elsewhere;
* `FileStore.Told` — a file is read, or told to be unreadable;
* `Stage.reads?` — the file that a stage of configuring a private key reads;
* `PathArg.Reading` — **what becomes of a file with credentials**.

Main results:

* `PathArg.exists_toSystem_iff`, `PathArg.exists_hasFault` — what names a file can be given to an
  operation on files, and anything else has a fault;
* `FileStore.told_credentialAt_iff` — what becomes of a file;
* `PathArg.reading` — **it is told whether a file can be read, if it is named**;
* `PathArg.not_forall_told` — not everything names a file.
-/

set_option autoImplicit false

namespace ClaimSeal

open Run

variable {σ α : Type}

/-! ### What names a file -/

namespace PathArg

/-- What a caller gives names a file: a text or a path without a zero, whose surrogates stand for
bytes, or a byte string without a zero. -/
def IsNameable : PathArg → Prop
  | text t => t.IsNameable
  | bytes b => 0 ∉ b
  | path p => p.text.IsNameable
  | other _ => False

/-- What is wrong with something that names no file: it is no path at all, its bytes hold a zero, or
there are no such bytes. -/
inductive HasFault : PathArg → PathFault → Prop
  | notAPath (d : Datum) : HasFault (.other d) (.notAPath d)
  | zeroByte {p : PathArg} {path : Path} {whole : Bytes} (hpath : p.toPath = .ok path)
      (hwhole : path.text.toFileName = .ok whole) (hzero : 0 ∈ whole) : HasFault p .zeroByte
  | unencodable {p : PathArg} {path : Path} {run : Text.Unencodable} (hpath : p.toPath = .ok path)
      (hrun : path.text.toFileName = .error run) : HasFault p (.unencodable run)

variable {p : PathArg}

/-- What names a file can be given to a file operation, and nothing else can. -/
theorem exists_toSystem_iff :
    (∃ path sys, p.toPath = .ok path ∧ path.toSystem = .ok sys) ↔ p.IsNameable := by
  cases p with
  | text t =>
      simpa [toPath, IsNameable, Path.exists_toSystem_iff] using Text.isNameable_text_parse_iff
  | bytes b =>
      simpa [toPath, IsNameable, Path.exists_toSystem_iff, Text.isNameable_text_parse_iff] using
        Text.isNameable_ofFileName_iff
  | path p => simp [toPath_path, IsNameable, Path.exists_toSystem_iff]
  | other d => simp [toPath, IsNameable]

theorem HasFault.not_isNameable {fault : PathFault} (h : p.HasFault fault) : ¬ p.IsNameable := by
  rw [← exists_toSystem_iff]
  rintro ⟨path, sys, hpath, hsys⟩
  cases h with
  | notAPath d => cases hpath
  | @zeroByte _ path' whole hpath' hwhole hzero =>
      obtain rfl := Except.ok.inj (hpath'.symm.trans hpath)
      simp [Path.toSystem, hwhole, hzero] at hsys
  | @unencodable _ path' run hpath' hrun =>
      obtain rfl := Except.ok.inj (hpath'.symm.trans hpath)
      simp [Path.toSystem, hrun] at hsys

theorem exists_hasFault (h : ¬ p.IsNameable) : ∃ fault, p.HasFault fault := by
  cases hpath : p.toPath with
  | error d =>
      cases p with
      | other d => exact ⟨_, .notAPath d⟩
      | text _ | bytes _ | path _ => cases hpath
  | ok path =>
      cases hwhole : path.text.toFileName with
      | error run => exact ⟨_, .unencodable hpath hwhole⟩
      | ok whole =>
          refine ⟨_, .zeroByte hpath hwhole (Classical.byContradiction fun hzero => h ?_)⟩
          rw [← exists_toSystem_iff]
          obtain ⟨sys, hsys⟩ := Path.exists_toSystem_iff.2
            (Text.exists_toFileName_iff.1 ⟨whole, hwhole, hzero⟩)
          exact ⟨path, sys, hpath, hsys⟩

end PathArg

/-! ### Reading a file with credentials -/

namespace FileStore

variable {files : FileStore} {report : Path → FileError → Failure} {p : PathArg}

theorem contentAt_of_hasFault {fault : PathFault} (h : p.HasFault fault) :
    files.contentAt report p = .error (.path fault) := by
  cases h with
  | notAPath d => rfl
  | @zeroByte _ path whole hpath hwhole hzero =>
      have hsys : path.toSystem = .error .zeroByte := by simp [Path.toSystem, hwhole, hzero]
      rw [contentAt_of_toPath hpath, hsys]
      rfl
  | unencodable hpath hrun =>
      rw [contentAt_of_toPath hpath, Path.toSystem, hrun]
      rfl

/-- A file that is named can be read, or the system does not let it be read. -/
theorem gives_or_refuses (files : FileStore) (h : p.IsNameable) :
    (∃ content, files.Gives p content) ∨ ∃ path e, files.Refuses p path e := by
  obtain ⟨path, sys, hpath, hsys⟩ := PathArg.exists_toSystem_iff.2 h
  cases hread : files.read sys with
  | error e => exact .inr ⟨path, e, hpath, sys, hsys, hread⟩
  | ok content =>
      obtain ⟨l, hl, hcontent⟩ := read_eq_ok_iff.1 hread
      exact .inl ⟨content, path, hpath, l, ⟨sys, hsys, hl⟩, hcontent⟩

/-- A file gives its content, or it is told as an unusable credential that the system does not let
it be read. -/
inductive Told (files : FileStore) (p : PathArg) : Except Failure Bytes → Prop
  | content {content : Bytes} (h : files.Gives p content) : Told files p (.ok content)
  | unreadable {path : Path} {e : FileError} (h : files.Refuses p path e) :
      Told files p (.error (.credential (.unreadable path e)))

theorem told_credentialAt_iff : files.Told p (files.credentialAt p) ↔ p.IsNameable := by
  constructor
  · intro h
    refine Classical.byContradiction fun hnot => ?_
    obtain ⟨fault, hfault⟩ := PathArg.exists_hasFault hnot
    rw [credentialAt, contentAt_of_hasFault hfault] at h
    cases h
  · intro h
    rcases files.gives_or_refuses h with ⟨content, hgives⟩ | ⟨path, e, hrefuses⟩
    · rw [credentialAt, contentAt_eq_ok_iff.2 hgives]
      exact .content hgives
    · rw [credentialAt, contentAt_of_refuses hrefuses]
      exact .unreadable hrefuses

end FileStore

/-! ### Credentials from files -/

/-- The file that a stage of configuring a private key reads, if it reads one. -/
def Stage.reads? (o : KeyOptions) : Stage → Option PathArg
  | certificateFile => some o.certificate
  | keyFile => some o.privateKey
  | responseFile => o.ocspResponse
  | _ => none

/-- A stage that reads a file fails as reading the file does. -/
theorem Stage.comes_of_reads? {o : KeyOptions} {files : FileStore} {s : Stage} {p : PathArg}
    {f : Failure} (hs : s.reads? o = some p) (hf : files.credentialAt p = .error f) :
    Comes o files s (.error f) := by
  cases s with
  | certificateFile =>
      cases hs
      exact .of_eq .certificateFile hf
  | keyFile =>
      cases hs
      exact .of_eq .keyFile hf
  | responseFile =>
      have hresponse : o.ocspResponse = some p := hs
      refine .of_eq .responseFile ?_
      rw [KeyOptions.responseIn, hresponse]
      dsimp only
      rw [hf]
      rfl
  | algorithm | privateKey | certificates | fit | chain | response => cases hs

/-- What becomes of a file with credentials, and of whatever reads it. -/
structure PathArg.Reading (p : PathArg) (w : World σ) : Prop where
  /-- It is read or told to be unreadable, if it is named, and only then. -/
  told : w.files.Told p (readCredential p w).1 ↔ p.IsNameable
  /-- What names no file has a fault, and nothing else has one. -/
  faulty : (∃ fault, p.HasFault fault) ↔ ¬ p.IsNameable
  /-- Else the fault of the name gets out, which is not told as an unusable credential. -/
  escapes : ∀ fault, p.HasFault fault → (readCredential p w).1 = .error (.path fault)
  /-- A signer of any class that is built from files fails as the file with the certificates does,
  and as the file with the key does if the certificates can be read.  Signers with a private key,
  whose password is given beforehand, are such a class. -/
  classes : ∀ f, (readCredential p w).1 = .error f →
    ∀ (α : Type) (c : Configurable σ α) (q : PathArg) (alg : Datum) (tsaUrl : Option Text),
      (c.ofFiles p q alg tsaUrl w).1 = .error f ∧
        ∀ cert, w.files.Gives q cert → (c.ofFiles q p alg tsaUrl w).1 = .error f
  /-- Configuring a private key fails as the first file does that it cannot read. -/
  configs : ∀ f, (readCredential p w).1 = .error f → ∀ (c : Config σ) (o : KeyOptions) (s : Stage),
    s.reads? o = some p → s.Reached o w.files → (c.useKey o w).1 = .error f

/-- **A file with credentials is read or told to be unreadable, if it is named**, for whatever
reason that is; the fault of anything that names no file gets out. -/
theorem PathArg.reading (p : PathArg) (w : World σ) : Reading p w where
  told := by
    rw [readCredential_apply]
    exact FileStore.told_credentialAt_iff
  faulty := ⟨fun ⟨_, h⟩ => h.not_isNameable, exists_hasFault⟩
  escapes fault h := by
    rw [readCredential_apply]
    exact FileStore.contentAt_of_hasFault h
  classes f hf α c q alg tsaUrl := by
    rw [readCredential_apply] at hf
    have hp : w.files.credentialAt p = .error f := hf
    refine ⟨?_, fun cert hcert => ?_⟩
    · rw [Configurable.ofFiles, fromFiles_apply, hp]
    · have hq : w.files.credentialAt q = .ok cert := FileStore.contentAt_eq_ok_iff.2 hcert
      rw [Configurable.ofFiles, fromFiles_apply, hq]
      dsimp only
      rw [hp]
  configs f hf c o s hs hreached := by
    rw [readCredential_apply] at hf
    rw [Config.useKey_fst, Outcome.map_eq_error_iff, KeyOptions.attempt_eq_error_iff]
    exact ⟨s, hreached, Stage.comes_of_reads? hs hf⟩

/-- Not everything that a caller may give names a file: a text may hold a zero. -/
theorem PathArg.not_forall_told :
    ¬ ∀ (p : PathArg) (w : World Unit), (∃ path, p.toPath = .ok path) →
      w.files.Told p (readCredential p w).1 := by
  intro h
  let p : PathArg := .text [cp 'a', cp '\x00', cp 'b']
  have hnot : ¬ p.IsNameable := fun hp => (hp (cp '\x00') (by simp)).1 rfl
  have htold := h p KeySigner.Sample.withFiles ⟨_, rfl⟩
  exact hnot ((reading p _).told.1 htold)

end ClaimSeal

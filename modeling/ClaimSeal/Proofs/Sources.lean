import ClaimSeal.Proofs.Files
import ClaimSeal.Proofs.KeySigner.Reservation
import ClaimSeal.Proofs.LogLines
import ClaimSeal.Sources

/-!
**Signers from files are the signers from their contents.**

The two files are read one after the other, the certificates first, and what they hold is passed on
as it is.  So nothing about a signer tells whether it was built from files or from bytes, and where
one of the files cannot be read, no signer is tried at all.

Main definitions:

* `FileStore.Gives`, `FileStore.Refuses` — files that can be read, and files that cannot;
* `Operation.Computes` — an operation gives what a computation on the files gives;
* `Configurable.BuiltFromFiles` — what a class of signers makes of two files;
* `KeySigner.SameFromFiles` — what signers with a private key from files have to do with those from
  bytes.

Main results:

* `FileStore.contentAt_eq_ok_iff`, `FileStore.contentAt_of_refuses` — what reading gives;
* `readCredential_apply`, `fromFiles_apply` — reading credentials, with what is logged;
* `KeySigner.sameFromFiles` — **signers from files are those from their contents**.
-/

set_option autoImplicit false

namespace ClaimSeal

open Run

variable {σ α β : Type}

/-! ### Files that can be read -/

namespace FileStore

/-- A file that a caller means can be read, and this is its content. -/
def Gives (files : FileStore) (p : PathArg) (content : Bytes) : Prop :=
  ∃ path, p.toPath = .ok path ∧ files.Holds path content

/-- The file that a caller means cannot be read: the system does not let it. -/
def Refuses (files : FileStore) (p : PathArg) (path : Path) (e : FileError) : Prop :=
  p.toPath = .ok path ∧ ∃ sys, path.toSystem = .ok sys ∧ files.read sys = .error e

variable {files : FileStore} {report : Path → FileError → Failure} {p : PathArg}

theorem contentAt_of_toPath {path : Path} (h : p.toPath = .ok path) :
    files.contentAt report p = (do
      let sys ← path.toSystem.mapError Failure.path
      (files.read sys).mapError (report path)) := by
  rw [contentAt, h]
  rfl

theorem contentAt_eq_ok_iff {content : Bytes} :
    files.contentAt report p = .ok content ↔ files.Gives p content := by
  simp only [contentAt, Outcome.bind_eq_ok_iff, Outcome.mapError_eq_ok_iff, read_eq_ok_iff]
  constructor
  · rintro ⟨path, hpath, sys, hsys, l, hl, hcontent⟩
    exact ⟨path, hpath, l, ⟨sys, hsys, hl⟩, hcontent⟩
  · rintro ⟨path, hpath, l, ⟨sys, hsys, hl⟩, hcontent⟩
    exact ⟨path, hpath, sys, hsys, l, hl, hcontent⟩

theorem contentAt_of_refuses {path : Path} {e : FileError} (h : files.Refuses p path e) :
    files.contentAt report p = .error (report path e) := by
  obtain ⟨hpath, sys, hsys, hread⟩ := h
  rw [contentAt_of_toPath hpath]
  refine Outcome.bind_eq_error_iff.2 (.inr ⟨sys, Outcome.mapError_eq_ok_iff.2 hsys, ?_⟩)
  exact Outcome.mapError_eq_error_iff.2 ⟨e, hread, rfl⟩

end FileStore

namespace Operation

/-- Reading a file leaves the world as it is, and what it gives is in the files. -/
theorem readFileOr_apply (report : FileError → Failure) (p : Path) (w : World σ) :
    readFileOr report p w = (do
      let sys ← p.toSystem.mapError Failure.path
      (w.files.read sys).mapError report, w) := by
  rw [readFileOr, ofExcept_bind_apply]
  cases p.toSystem with
  | error e => rfl
  | ok sys =>
      dsimp only
      rw [get_bind_apply]
      change ofExcept report (w.files.read sys) w = ((w.files.read sys).mapError report, w)
      cases w.files.read sys <;> rfl

end Operation

/-- What is logged when credentials are read: the path, if there is one. -/
def PathArg.readingLines (p : PathArg) : List LogLine :=
  match p.toPath with
  | .error _ => []
  | .ok found => [⟨.debug, txt "Reading credential material from " ++ found.text⟩]

/-- The world after credentials were read, or after trying to. -/
def World.afterReading (w : World σ) (ps : List PathArg) : World σ :=
  { w with log := w.log ++ ps.flatMap PathArg.readingLines }

/-- Reading credentials gives what is in the files. -/
theorem readCredential_apply (p : PathArg) (w : World σ) :
    readCredential p w = (w.files.credentialAt p, w.afterReading [p]) := by
  rw [readCredential, Operation.path, Operation.ofExcept_bind_apply, FileStore.credentialAt,
    World.afterReading, List.flatMap_singleton, PathArg.readingLines]
  cases hpath : p.toPath with
  | error d =>
      rw [List.append_nil, FileStore.contentAt, hpath]
      rfl
  | ok path =>
      dsimp only
      rw [bind_apply, Operation.log_apply, FileStore.contentAt_of_toPath hpath]
      exact Operation.readFileOr_apply _ path _

theorem fromFiles_apply (p q : PathArg) (build : (cert key : Bytes) → Operation σ α)
    (w : World σ) :
    fromFiles p q build w = match w.files.credentialAt p with
      | .error f => (.error f, w.afterReading [p])
      | .ok cert => match w.files.credentialAt q with
        | .error f => (.error f, w.afterReading [p, q])
        | .ok key => build cert key (w.afterReading [p, q]) := by
  have hboth : (w.afterReading [p]).afterReading [q] = w.afterReading [p, q] := by
    simp [World.afterReading]
  have hfiles : (w.afterReading [p]).files = w.files := rfl
  rw [fromFiles, bind_apply, readCredential_apply]
  cases w.files.credentialAt p with
  | error f => rfl
  | ok cert =>
      dsimp only
      rw [bind_apply, readCredential_apply, hboth, hfiles]
      cases w.files.credentialAt q <;> rfl

/-! ### Operations that compute -/

/-- An operation gives what a computation on the files gives, and does nothing but log. -/
def Operation.Computes (op : Operation σ α) (r : FileStore → Except Failure α) : Prop :=
  ∀ w, ∃ lines, op w = (r w.files, { w with log := w.log ++ lines })

namespace Operation

theorem computes_pure (a : α) : Computes (pure a : Operation σ α) fun _ => .ok a :=
  fun w => ⟨[], by rw [List.append_nil]; rfl⟩

theorem computes_throw (f : Failure) : Computes (throw f : Operation σ α) fun _ => .error f :=
  fun w => ⟨[], by rw [List.append_nil]; rfl⟩

theorem computes_ofExcept {ε : Type} (failure : ε → Failure) (r : Except ε α) :
    Computes (ofExcept failure r : Operation σ α) fun _ => r.mapError failure := by
  cases r with
  | ok a => exact computes_pure a
  | error e => exact computes_throw (failure e)

theorem computes_readCredential (p : PathArg) :
    Computes (readCredential p : Operation σ Bytes) fun files => files.credentialAt p :=
  fun w => ⟨_, readCredential_apply p w⟩

theorem Computes.bind {op : Operation σ α} {f : α → Operation σ β}
    {r : FileStore → Except Failure α} {g : α → FileStore → Except Failure β}
    (hop : Computes op r) (hf : ∀ a, Computes (f a) (g a)) :
    Computes (op >>= f) fun files => r files >>= fun a => g a files := by
  intro w
  obtain ⟨lines, hlines⟩ := hop w
  simp only [bind_apply, hlines]
  cases r w.files with
  | error e => exact ⟨lines, rfl⟩
  | ok a =>
      obtain ⟨more, hmore⟩ := hf a { w with log := w.log ++ lines }
      refine ⟨lines ++ more, ?_⟩
      rw [← List.append_assoc]
      exact hmore

end Operation

/-! ### Signers from files -/

/-- What a class of signers makes of two files. -/
structure Configurable.BuiltFromFiles (c : Configurable σ α) (p q : PathArg) (w : World σ) : Prop
    where
  /-- What the files hold is passed on, the certificates first, and so are the algorithm and the
  address of the time authority. -/
  passed : ∀ cert key, w.files.Gives p cert → w.files.Gives q key → ∀ alg tsaUrl,
    c.ofFiles p q alg tsaUrl w = c.ofBytes cert key alg tsaUrl (w.afterReading [p, q])
  /-- Where the certificates cannot be read the credentials are not usable, and nothing else is
  tried. -/
  certificate : ∀ path e, w.files.Refuses p path e → ∀ alg tsaUrl,
    c.ofFiles p q alg tsaUrl w =
      (.error (.credential (.unreadable path e)), w.afterReading [p])
  /-- Where they can be read and the key cannot, the credentials are not usable, either. -/
  key : ∀ cert path e, w.files.Gives p cert → w.files.Refuses q path e → ∀ alg tsaUrl,
    c.ofFiles p q alg tsaUrl w =
      (.error (.credential (.unreadable path e)), w.afterReading [p, q])

theorem Configurable.builtFromFiles (c : Configurable σ α) (p q : PathArg) (w : World σ) :
    c.BuiltFromFiles p q w where
  passed cert key hcert hkey alg tsaUrl := by
    rw [ofFiles, fromFiles_apply, FileStore.credentialAt, FileStore.credentialAt,
      FileStore.contentAt_eq_ok_iff.2 hcert, FileStore.contentAt_eq_ok_iff.2 hkey]
  certificate path e h alg tsaUrl := by
    rw [ofFiles, fromFiles_apply, FileStore.credentialAt, FileStore.contentAt_of_refuses h]
  key cert path e hcert h alg tsaUrl := by
    rw [ofFiles, fromFiles_apply, FileStore.credentialAt, FileStore.credentialAt,
      FileStore.contentAt_eq_ok_iff.2 hcert, FileStore.contentAt_of_refuses h]

/-- What an operation gives does not depend on the log, if it ignores it. -/
theorem Operation.IgnoresLog.fst_eq {o : Operation σ α} (ho : IgnoresLog o) (w : World σ)
    (log : List LogLine) : (o { w with log }).1 = (o w).1 := by
  have hfst : ∀ lines, (o { w with log := lines }).1 = (o { w with log := [] }).1 := by
    intro lines
    have hafter : { w with log := lines } = World.after lines { w with log := [] } := by
      rw [World.after, List.append_nil]
    rw [hafter, ho]
  rw [hfst, ← hfst w.log]

/-- What is made of two files by signers with a private key, and by any class of signers. -/
structure KeySigner.SameFromFiles (p q : PathArg) (w : World σ) : Prop where
  /-- From files that can be read comes the signer that comes from their contents, or the same
  failure. -/
  same : ∀ cert key, w.files.Gives p cert → w.files.Gives q key → ∀ alg tsaUrl password,
    (ofFiles p q alg tsaUrl password w).1 = (ofBytes cert key alg tsaUrl password w).1
  /-- Signers with a private key take a password besides, and read files as any class does. -/
  own : ∀ alg tsaUrl password, ofFiles p q alg tsaUrl password =
    (configurable password : Configurable σ (KeySigner σ PublicKey)).ofFiles p q alg tsaUrl
  /-- Every class passes on what the files hold, and tries nothing where it cannot read one. -/
  classes : ∀ (α : Type) (c : Configurable σ α), c.BuiltFromFiles p q w

/-- **Signers from files are those from their contents**, for all files and whatever else is given;
where a file cannot be read, no class of signers tries to build one. -/
theorem KeySigner.sameFromFiles (p q : PathArg) (w : World σ) : SameFromFiles p q w where
  same cert key hcert hkey alg tsaUrl password := by
    have hpassed := ((configurable password).builtFromFiles p q w).passed cert key hcert hkey alg
      tsaUrl
    have hignores : Operation.IgnoresLog (ofBytes cert key alg tsaUrl password : Operation σ _) :=
      Operation.inherited_ignoresLog.ofBytes cert key alg tsaUrl password
    exact (congrArg Prod.fst hpassed).trans (hignores.fst_eq w _)
  own alg tsaUrl password := rfl
  classes α c := c.builtFromFiles p q w

/-! ### Files with the credentials of the sample -/

namespace KeySigner.Sample

/-- A path to a file in the directory that is worked in. -/
def pathTo (name : String) : PathArg := .path (Path.parse (txt name))

/-- The credentials of the sample in two files. -/
def withFiles : World Unit where
  files := ⟨[], [], [([ascii "cert"], armoured "CERTIFICATE" (certificate 300)),
    ([ascii "key"], armoured "PRIVATE KEY" privateKey)]⟩
  log := []
  backend := ()

theorem gives_cert :
    withFiles.files.Gives (pathTo "cert") (armoured "CERTIFICATE" (certificate 300)) :=
  FileStore.contentAt_eq_ok_iff.1 (rfl : withFiles.files.credentialAt (pathTo "cert") = _)

theorem gives_key : withFiles.files.Gives (pathTo "key") (armoured "PRIVATE KEY" privateKey) :=
  FileStore.contentAt_eq_ok_iff.1 (rfl : withFiles.files.credentialAt (pathTo "key") = _)

end KeySigner.Sample

/-- The signer of the sample comes from files as it comes from bytes. -/
theorem KeySigner.sameFromFiles_sample :
    let cert := Sample.armoured "CERTIFICATE" (Sample.certificate 300)
    let key := Sample.armoured "PRIVATE KEY" Sample.privateKey
    Sample.withFiles.files.Gives (Sample.pathTo "cert") cert ∧
      Sample.withFiles.files.Gives (Sample.pathTo "key") key ∧
      (ofFiles (Sample.pathTo "cert") (Sample.pathTo "key") (.json (.str (txt "Ed25519")))
        (some (txt "http://tsa")) none Sample.withFiles).1 = (Sample.load Sample.withFiles).1 ∧
      (Sample.load Sample.withFiles).1.isOk = true := by
  refine ⟨Sample.gives_cert, Sample.gives_key, ?_, by decide +kernel⟩
  exact (sameFromFiles _ _ Sample.withFiles).same _ _ Sample.gives_cert Sample.gives_key _ _ _

end ClaimSeal

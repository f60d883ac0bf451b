import ClaimSeal.Config
import ClaimSeal.Proofs.KeySigner.Building
import ClaimSeal.Proofs.Sources

/-!
**A private key is configured in stages, and the first one that fails is told.**

The certificate file is read, and then the key file.  The name of the algorithm, the key and the
certificates are read next, the key is checked against the algorithm, and the chain is ordered.  If
a revocation response is asked for, its file is read and the response is checked.  Each of these
stages looks at some of the options and files and at what other stages gave, and at nothing else.
All of them have to succeed; else the first one that fails is told, whatever comes later.

Main definitions:

* `Stage`, `Stage.before` — the stages and their order;
* `Stage.Comes` — **what comes of a stage**, from what it looks at;
* `KeyOptions.attempt`, `KeyOptions.Staged` — what options come to, and what a signer is made of;
* `Stage.Same` — two calls show a stage the same.

Main results:

* `Stage.Comes.unique` — one thing comes of a stage;
* `KeyOptions.attempt_eq_ok_iff`, `KeyOptions.attempt_eq_error_iff` — what options come to is told
  by the stages;
* `Config.computes_keySigner` — choosing a signer gives what the options come to;
* `Stage.Comes.transfer` — what comes of a stage does not depend on what it does not look at;
* `Config.useKey_inStages` — **a private key is configured in stages**.
-/

set_option autoImplicit false

namespace ClaimSeal

open Run

variable {σ α : Type}

/-! ### Stages -/

/-- The stages in which a signer with a private key is configured. -/
inductive Stage where
  | certificateFile
  | keyFile
  | algorithm
  | privateKey
  | certificates
  | fit
  | chain
  | responseFile
  | response
deriving DecidableEq

namespace Stage

/-- The stages in order. -/
def all : List Stage :=
  [certificateFile, keyFile, algorithm, privateKey, certificates, fit, chain, responseFile,
    response]

/-- The stages before one. -/
def before (s : Stage) : List Stage := all.takeWhile (· ≠ s)

/-- What a stage gives.  It may be that no revocation response is asked for. -/
abbrev Result : Stage → Type
  | certificateFile | keyFile => Bytes
  | algorithm => Algorithm
  | privateKey => KeyMaterial
  | certificates => List (Certificate PublicKey)
  | fit => Unit
  | chain => Chain PublicKey
  | responseFile | response => Option Bytes

end Stage

namespace KeyOptions

/-- The private key in a file; an empty password is none. -/
def materialIn (o : KeyOptions) (key : Bytes) : Except Failure KeyMaterial :=
  match loadPrivateKey? key (o.password.filter (!·.isEmpty)) with
  | none => .error (.credential .privateKey)
  | some material => .ok material

/-- The content of the file with the revocation response, if one is asked for. -/
def responseIn (o : KeyOptions) (files : FileStore) : Except Failure (Option Bytes) :=
  match o.ocspResponse with
  | none => .ok none
  | some p => (files.credentialAt p).map some

end KeyOptions

/-- Lets a revocation response pass that covers the signer's own certificate, if there is one. -/
def Chain.accept {κ : Type} (c : Chain κ) : Option Bytes → Except Failure (Option Bytes)
  | none => .ok none
  | some response => (acceptOcsp response c.own.serial).map some

/-- A copy of a signer carries what it lets pass. -/
theorem KeySigner.withOcsp_eq_accept {κ : Type} (s : KeySigner σ κ) (response : Bytes) :
    s.withOcsp response = (do
      let accepted ← s.chain.accept (some response)
      return { s with ocsp := accepted }) := by
  rw [withOcsp, Chain.accept]
  cases acceptOcsp response s.chain.own.serial <;> rfl

namespace Stage

/-- What comes of a stage, from the options, the files, and what other stages give that it needs. -/
inductive Comes (o : KeyOptions) (files : FileStore) : (s : Stage) → Except Failure s.Result → Prop
  | certificateFile : Comes o files certificateFile (files.credentialAt o.certificate)
  | keyFile : Comes o files keyFile (files.credentialAt o.privateKey)
  | algorithm : Comes o files algorithm
      ((Algorithm.parse o.alg).mapError fun u => .credential (.unsupported u))
  | privateKey {key : Bytes} (hkey : Comes o files keyFile (.ok key)) :
      Comes o files privateKey (o.materialIn key)
  | certificates {cert : Bytes} (hcert : Comes o files certificateFile (.ok cert)) :
      Comes o files certificates
        ((CertificateFile.load cert).mapError CertificateFile.LoadError.failure)
  | fit {alg : Algorithm} {material : KeyMaterial} (halg : Comes o files algorithm (.ok alg))
      (hmaterial : Comes o files privateKey (.ok material)) :
      Comes o files fit ((alg.suits material.family).mapError .credential)
  | chain {material : KeyMaterial} {certs : List (Certificate PublicKey)}
      (hmaterial : Comes o files privateKey (.ok material))
      (hcerts : Comes o files certificates (.ok certs)) :
      Comes o files chain (orderChain material.publicKey certs)
  | responseFile : Comes o files responseFile (o.responseIn files)
  | response {content : Option Bytes} {ordered : Chain PublicKey}
      (hcontent : Comes o files responseFile (.ok content))
      (hchain : Comes o files chain (.ok ordered)) :
      Comes o files response (ordered.accept content)

variable {o o' : KeyOptions} {files files' : FileStore} {s t : Stage}

/-- One thing comes of a stage. -/
theorem Comes.unique {r r' : Except Failure s.Result} (h : Comes o files s r)
    (h' : Comes o files s r') : r = r' := by
  induction h with
  | certificateFile | keyFile | algorithm | responseFile =>
      cases h'
      rfl
  | privateKey _ ih =>
      cases h' with
      | privateKey hkey =>
          cases ih hkey
          rfl
  | certificates _ ih =>
      cases h' with
      | certificates hcert =>
          cases ih hcert
          rfl
  | fit _ _ ih₁ ih₂ =>
      cases h' with
      | fit halg hmaterial =>
          cases ih₁ halg
          cases ih₂ hmaterial
          rfl
  | chain _ _ ih₁ ih₂ =>
      cases h' with
      | chain hmaterial hcerts =>
          cases ih₁ hmaterial
          cases ih₂ hcerts
          rfl
  | response _ _ ih₁ ih₂ =>
      cases h' with
      | response hcontent hchain =>
          cases ih₁ hcontent
          cases ih₂ hchain
          rfl

theorem Comes.of_eq {r r' : Except Failure s.Result} (h : Comes o files s r) (heq : r = r') :
    Comes o files s r' :=
  heq ▸ h

/-- A stage succeeds. -/
def Passes (o : KeyOptions) (files : FileStore) (s : Stage) : Prop :=
  ∃ a, Comes o files s (.ok a)

/-- All stages before one succeed. -/
def Reached (o : KeyOptions) (files : FileStore) (s : Stage) : Prop :=
  ∀ t ∈ s.before, t.Passes o files

theorem Passes.not_comes_error {f : Failure} (h : s.Passes o files) :
    ¬ Comes o files s (.error f) := by
  obtain ⟨a, ha⟩ := h
  intro hf
  cases ha.unique hf

theorem Reached.next (h : s.Reached o files) (hs : s.Passes o files)
    (ht : t.before = s.before ++ [s]) : t.Reached o files := by
  intro u hu
  rw [ht, List.mem_append, List.mem_singleton] at hu
  rcases hu with hu | rfl
  · exact h u hu
  · exact hs

/-- Of two stages one is before the other. -/
theorem mem_before_or (s t : Stage) : s ∈ t.before ∨ s = t ∨ t ∈ s.before := by
  cases s <;> cases t <;> decide

/-- A revocation response is what the last stage is about. -/
theorem mem_before_response_or (s : Stage) : s ∈ response.before ∨ s = response := by
  cases s <;> decide

/-! ### The walk through the stages -/

/-- A computation gives a value that is good, or it fails as the first stage does that fails. -/
def Concludes (o : KeyOptions) (files : FileStore) (good : α → Prop) (r : Except Failure α) :
    Prop :=
  (∃ a, r = .ok a ∧ good a) ∨
    ∃ s f, s.Reached o files ∧ Comes o files s (.error f) ∧ r = .error f

/-- One stage of the walk. -/
theorem concludes_bind {good : α → Prop} {r : Except Failure s.Result}
    {f : s.Result → Except Failure α} (hreached : s.Reached o files) (hr : Comes o files s r)
    (hnext : ∀ a, Comes o files s (.ok a) → Concludes o files good (f a)) :
    Concludes o files good (r >>= f) := by
  cases r with
  | error e => exact .inr ⟨s, e, hreached, hr, rfl⟩
  | ok a => exact hnext a hr

end Stage

namespace KeyOptions

variable (o : KeyOptions) (files : FileStore)

/-- What options come to with given files. -/
def attempt : Except Failure (KeySigner σ PublicKey) := do
  let cert ← files.credentialAt o.certificate
  let key ← files.credentialAt o.privateKey
  let alg ← (Algorithm.parse o.alg).mapError fun u => Failure.credential (.unsupported u)
  let material ← o.materialIn key
  let certs ← (CertificateFile.load cert).mapError CertificateFile.LoadError.failure
  let s ← KeySigner.assemble material.toPrivateKey certs alg o.tsaUrl none
  match ← o.responseIn files with
  | none => return s
  | some response => s.withOcsp response

theorem loadPrivateKey?_filter (file : Bytes) (password : Option Text) :
    loadPrivateKey? file (password.filter (!·.isEmpty)) = loadPrivateKey? file password := by
  rcases password with _ | _ | _ <;> rfl

/-- A signer is made of what the stages give, and all of them succeed. -/
structure Staged (s : KeySigner σ PublicKey) : Prop where
  parts : ∃ alg material chain response,
    Stage.Comes o files .algorithm (.ok alg) ∧ Stage.Comes o files .privateKey (.ok material) ∧
      Stage.Comes o files .chain (.ok chain) ∧ Stage.Comes o files .response (.ok response) ∧
      s = ⟨material.toPrivateKey, alg, o.tsaUrl, chain, response⟩
  passes : ∀ stage : Stage, stage.Passes o files

open Stage

variable {o files} in
theorem Staged.unique {s s' : KeySigner σ PublicKey} (h : Staged o files s)
    (h' : Staged o files s') : s = s' := by
  obtain ⟨alg, material, chain, response, halg, hmaterial, hchain, hresponse, rfl⟩ := h.parts
  obtain ⟨_, _, _, _, halg', hmaterial', hchain', hresponse', rfl⟩ := h'.parts
  rw [Except.ok.inj (halg.unique halg'), Except.ok.inj (hmaterial.unique hmaterial'),
    Except.ok.inj (hchain.unique hchain'), Except.ok.inj (hresponse.unique hresponse')]

theorem concludes_attempt :
    Concludes o files (Staged o files) (o.attempt files : Except Failure (KeySigner σ _)) := by
  have h₁ : Stage.certificateFile.Reached o files := fun t ht => absurd ht List.not_mem_nil
  refine concludes_bind h₁ .certificateFile fun cert hcert => ?_
  have h₂ : Stage.keyFile.Reached o files := h₁.next ⟨_, hcert⟩ rfl
  refine concludes_bind h₂ .keyFile fun key hkey => ?_
  have h₃ : Stage.algorithm.Reached o files := h₂.next ⟨_, hkey⟩ rfl
  refine concludes_bind h₃ .algorithm fun alg halg => ?_
  have h₄ : Stage.privateKey.Reached o files := h₃.next ⟨_, halg⟩ rfl
  refine concludes_bind h₄ (.privateKey hkey) fun material hmaterial => ?_
  have h₅ : Stage.certificates.Reached o files := h₄.next ⟨_, hmaterial⟩ rfl
  refine concludes_bind h₅ (.certificates hcert) fun certs hcerts => ?_
  have h₆ : Stage.fit.Reached o files := h₅.next ⟨_, hcerts⟩ rfl
  rw [KeySigner.assemble, bind_assoc]
  refine concludes_bind h₆ (.fit halg hmaterial) fun _ hfit => ?_
  have h₇ : Stage.chain.Reached o files := h₆.next ⟨_, hfit⟩ rfl
  rw [bind_assoc]
  refine concludes_bind h₇ (.chain hmaterial hcerts) fun ordered hchain => ?_
  have h₈ : Stage.responseFile.Reached o files := h₇.next ⟨_, hchain⟩ rfl
  refine concludes_bind h₈ .responseFile fun content hcontent => ?_
  have h₉ : Stage.response.Reached o files := h₈.next ⟨_, hcontent⟩ rfl
  have hend : Concludes o files (Staged o files) (do
      let response ← ordered.accept content
      return (⟨material.toPrivateKey, alg, o.tsaUrl, ordered, response⟩ : KeySigner σ _)) := by
    refine concludes_bind h₉ (.response hcontent hchain) fun response hresponse => ?_
    refine .inl ⟨_, rfl, ⟨alg, material, ordered, response, halg, hmaterial, hchain, hresponse,
      rfl⟩, fun stage => ?_⟩
    rcases mem_before_response_or stage with h | rfl
    · exact h₉ stage h
    · exact ⟨response, hresponse⟩
  cases content with
  | none => exact hend
  | some response =>
      change Concludes o files _ (KeySigner.withOcsp _ response)
      rw [KeySigner.withOcsp_eq_accept]
      exact hend

theorem attempt_eq_error_iff {f : Failure} :
    (o.attempt files : Except Failure (KeySigner σ PublicKey)) = .error f ↔
      ∃ s : Stage, s.Reached o files ∧ Comes o files s (.error f) := by
  have hconcludes := concludes_attempt (σ := σ) o files
  constructor
  · intro h
    rcases hconcludes with ⟨s, hs, _⟩ | ⟨s, f', hreached, hf, heq⟩
    · rw [hs] at h
      cases h
    · rw [h] at heq
      cases heq
      exact ⟨s, hreached, hf⟩
  · rintro ⟨s, hreached, hf⟩
    rcases hconcludes with ⟨_, _, hstaged⟩ | ⟨s', f', hreached', hf', heq⟩
    · exact absurd hf (hstaged.passes s).not_comes_error
    · -- both are the first one that fails
      rcases mem_before_or s s' with h | rfl | h
      · exact absurd hf (hreached' s h).not_comes_error
      · rw [heq, Except.error.inj (hf.unique hf')]
      · exact absurd hf' (hreached s' h).not_comes_error

theorem attempt_eq_ok_iff {s : KeySigner σ PublicKey} :
    o.attempt files = .ok s ↔ Staged o files s := by
  rcases concludes_attempt (σ := σ) o files with ⟨s', hs', hstaged⟩ | ⟨stage, f, _, hf, heq⟩
  · rw [hs']
    constructor
    · intro h
      rw [← Except.ok.inj h]
      exact hstaged
    · intro h
      rw [hstaged.unique h]
  · rw [heq]
    constructor
    · intro h
      cases h
    · intro h
      exact absurd hf (h.passes stage).not_comes_error

end KeyOptions

/-! ### Configuring in stages -/

namespace KeySigner

theorem computes_build {κ : Type} [DecidableEq κ] (key : PrivateKey σ κ)
    (certs : List (Certificate κ)) (alg : Algorithm) (tsaUrl : Option Text) (ocsp : Option Bytes) :
    Operation.Computes (build key certs alg tsaUrl ocsp) fun _ =>
      assemble key certs alg tsaUrl ocsp := by
  intro w
  rw [build_apply]
  cases assemble key certs alg tsaUrl ocsp with
  | error f => exact ⟨[], by rw [List.append_nil]⟩
  | ok s => exact ⟨_, rfl⟩

theorem computes_ofBytes (o : KeyOptions) (cert key : Bytes) :
    Operation.Computes
      (ofBytes cert key o.alg o.tsaUrl o.password : Operation σ (KeySigner σ PublicKey))
      fun _ => (do
        let alg ← (Algorithm.parse o.alg).mapError fun u => Failure.credential (.unsupported u)
        let material ← o.materialIn key
        let certs ← (CertificateFile.load cert).mapError CertificateFile.LoadError.failure
        assemble material.toPrivateKey certs alg o.tsaUrl none) := by
  refine (Operation.computes_ofExcept _ _).bind fun alg => ?_
  rw [KeyOptions.materialIn, KeyOptions.loadPrivateKey?_filter]
  cases loadPrivateKey? key o.password with
  | none => exact Operation.computes_throw _
  | some material =>
      refine (Operation.computes_ofExcept _ _).bind fun certs => computes_build _ _ _ _ _

end KeySigner

namespace Config

/-- Reading a revocation response, if one is asked for. -/
theorem computes_response (o : KeyOptions) (s : KeySigner σ PublicKey) :
    Operation.Computes (match o.ocspResponse with
      | none => return s
      | some p => do
          let response ← readCredential p
          Operation.ofExcept id (s.withOcsp response) : Operation σ _) fun files => (do
      match ← o.responseIn files with
      | none => return s
      | some response => s.withOcsp response) := by
  simp only [KeyOptions.responseIn]
  cases o.ocspResponse with
  | none => exact Operation.computes_pure s
  | some p =>
      intro w
      obtain ⟨lines, h⟩ := (Operation.computes_readCredential p).bind
        (fun response => Operation.computes_ofExcept id (s.withOcsp response)) w
      refine ⟨lines, h.trans ?_⟩
      dsimp only
      cases w.files.credentialAt p with
      | error f => rfl
      | ok response =>
          change ((s.withOcsp response).mapError id, _) = (s.withOcsp response, _)
          cases s.withOcsp response <;> rfl

/-- Choosing a signer gives what the options come to. -/
theorem computes_keySigner (o : KeyOptions) :
    Operation.Computes (keySigner o : Operation σ (KeySigner σ PublicKey)) o.attempt := by
  intro w
  obtain ⟨lines, h⟩ := ((Operation.computes_readCredential o.certificate).bind fun cert =>
    (Operation.computes_readCredential o.privateKey).bind fun key =>
      KeySigner.computes_ofBytes (σ := σ) o cert key).bind (computes_response o) w
  refine ⟨lines, h.trans ?_⟩
  simp only [KeyOptions.attempt, bind_assoc]

end Config

/-! ### What later stages look at -/

/-- Whether a file with credentials can be read. -/
def FileStore.readsAt (files : FileStore) (p : PathArg) : Except Failure Unit :=
  (files.credentialAt p).map fun _ => ()

theorem FileStore.readsAt_of_eq_ok {files : FileStore} {p : PathArg} {content : Bytes}
    (h : files.credentialAt p = .ok content) : files.readsAt p = .ok () := by
  rw [readsAt, h]
  rfl

theorem KeyOptions.map_responseIn (o : KeyOptions) (files : FileStore) :
    ((o.responseIn files).map fun _ => ()) = (o.ocspResponse.map files.readsAt).getD (.ok ()) := by
  rw [responseIn]
  cases o.ocspResponse with
  | none => rfl
  | some p =>
      rw [Option.map_some, Option.getD_some, FileStore.readsAt]
      dsimp only
      cases files.credentialAt p <;> rfl

namespace Stage

/-- Two calls show a stage the same.  A stage that reads a file looks at nothing but whether it can
be read, and some look at nothing but what other stages give. -/
def Same (o : KeyOptions) (files : FileStore) (o' : KeyOptions) (files' : FileStore) :
    Stage → Prop
  | certificateFile => files.readsAt o.certificate = files'.readsAt o'.certificate
  | keyFile => files.readsAt o.privateKey = files'.readsAt o'.privateKey
  | algorithm => o.alg = o'.alg
  | privateKey => files.credentialAt o.privateKey = files'.credentialAt o'.privateKey ∧
      o.password.filter (!·.isEmpty) = o'.password.filter (!·.isEmpty)
  | certificates => files.credentialAt o.certificate = files'.credentialAt o'.certificate
  | fit | chain => True
  | responseFile => o.ocspResponse.map files.readsAt = o'.ocspResponse.map files'.readsAt
  | response => o.responseIn files = o'.responseIn files'

variable {o o' : KeyOptions} {files files' : FileStore} {s : Stage}

theorem algorithm_of_same (h : algorithm.Same o files o' files') {r : Except Failure Algorithm}
    (hr : Comes o files algorithm r) : Comes o' files' algorithm r := by
  cases hr
  rw [show o.alg = o'.alg from h]
  exact .algorithm

theorem privateKey_of_same (h : privateKey.Same o files o' files') {r : Except Failure KeyMaterial}
    (hr : Comes o files privateKey r) : Comes o' files' privateKey r := by
  obtain ⟨hfile, hpassword⟩ := h
  cases hr with
  | privateKey hkey =>
      rw [KeyOptions.materialIn, hpassword]
      refine .privateKey ?_
      rw [hkey.unique .keyFile, hfile]
      exact .keyFile

theorem certificates_of_same (h : certificates.Same o files o' files')
    {r : Except Failure (List (Certificate PublicKey))} (hr : Comes o files certificates r) :
    Comes o' files' certificates r := by
  cases hr with
  | certificates hcert =>
      refine .certificates ?_
      rw [hcert.unique .certificateFile, show files.credentialAt _ = _ from h]
      exact .certificateFile

theorem chain_of_same (hkey : privateKey.Same o files o' files')
    (hcert : certificates.Same o files o' files') {r : Except Failure (Chain PublicKey)}
    (hr : Comes o files chain r) : Comes o' files' chain r := by
  cases hr with
  | chain hmaterial hcerts =>
      exact .chain (privateKey_of_same hkey hmaterial) (certificates_of_same hcert hcerts)

/-- If two calls show a stage and those before the same, then it fails in both in the same way or in
none of them. -/
theorem Comes.transfer {r : Except Failure s.Result} (h : Comes o files s r)
    (hsame : ∀ t, t ∈ s.before ∨ t = s → t.Same o files o' files') :
    ∃ r', Comes o' files' s r' ∧ r.map (fun _ => ()) = r'.map fun _ => () := by
  cases h with
  | certificateFile => exact ⟨_, .certificateFile, hsame .certificateFile (.inr rfl)⟩
  | keyFile => exact ⟨_, .keyFile, hsame .keyFile (.inr rfl)⟩
  | algorithm => exact ⟨_, algorithm_of_same (hsame .algorithm (.inr rfl)) .algorithm, rfl⟩
  | privateKey hkey =>
      exact ⟨_, privateKey_of_same (hsame .privateKey (.inr rfl)) (.privateKey hkey), rfl⟩
  | certificates hcert =>
      exact ⟨_, certificates_of_same (hsame .certificates (.inr rfl)) (.certificates hcert), rfl⟩
  | fit halg hmaterial =>
      exact ⟨_, .fit (algorithm_of_same (hsame .algorithm (.inl (by decide))) halg)
        (privateKey_of_same (hsame .privateKey (.inl (by decide))) hmaterial), rfl⟩
  | chain hmaterial hcerts =>
      exact ⟨_, chain_of_same (hsame .privateKey (.inl (by decide)))
        (hsame .certificates (.inl (by decide))) (.chain hmaterial hcerts), rfl⟩
  | responseFile =>
      have hread : o.ocspResponse.map files.readsAt = o'.ocspResponse.map files'.readsAt :=
        hsame .responseFile (.inr rfl)
      refine ⟨_, .responseFile, ?_⟩
      rw [KeyOptions.map_responseIn, KeyOptions.map_responseIn, hread]
  | response hcontent hchain =>
      have hresponse : o.responseIn files = o'.responseIn files' := hsame .response (.inr rfl)
      refine ⟨_, .response ?_ (chain_of_same (hsame .privateKey (.inl (by decide)))
        (hsame .certificates (.inl (by decide))) hchain), rfl⟩
      rw [hcontent.unique .responseFile, hresponse]
      exact .responseFile

theorem mem_before_of_mem {t u : Stage} (ht : t ∈ s.before) (hu : u ∈ t.before) : u ∈ s.before := by
  have hall : t ∈ s.before → ∀ u ∈ t.before, u ∈ s.before := by
    cases s <;> cases t <;> decide
  exact hall ht u hu

theorem Reached.transfer (h : s.Reached o files)
    (hsame : ∀ t ∈ s.before, t.Same o files o' files') : s.Reached o' files' := by
  intro t ht
  obtain ⟨a, ha⟩ := h t ht
  have hshown : ∀ u, u ∈ t.before ∨ u = t → u.Same o files o' files' := by
    rintro u (hu | rfl)
    · exact hsame u (mem_before_of_mem ht hu)
    · exact hsame u ht
  obtain ⟨r', hr', hmap⟩ := ha.transfer hshown
  cases r' with
  | error e => cases hmap
  | ok a' => exact ⟨a', hr'⟩

/-- A stage that fails in one call fails in the other one, and in the same way. -/
theorem Comes.error_transfer {f : Failure} (h : Comes o files s (.error f))
    (hsame : ∀ t, t ∈ s.before ∨ t = s → t.Same o files o' files') :
    Comes o' files' s (.error f) := by
  obtain ⟨r', hr', hmap⟩ := h.transfer hsame
  cases r' with
  | error e =>
      rw [Except.error.inj hmap]
      exact hr'
  | ok a' => cases hmap

end Stage

/-! ### Configuring a private key -/

namespace Config

theorem useKey_fst (c : Config σ) (o : KeyOptions) (w : World σ) :
    (c.useKey o w).1 = (o.attempt w.files).map fun s => c.useSigner (KeySigner.toSigner s) := by
  obtain ⟨lines, hlines⟩ := computes_keySigner o w
  rw [useKey, bind_apply, hlines]
  cases o.attempt w.files <;> rfl

/-- What the stages have to do with configuring a private key. -/
structure InStages (c : Config σ) (o : KeyOptions) (w : World σ) : Prop where
  /-- It succeeds if and only if all stages do. -/
  accepted : (∃ c', (c.useKey o w).1 = .ok c') ↔ ∀ s : Stage, s.Passes o w.files
  /-- The signer is then made of what the stages give. -/
  built : ∀ c', (c.useKey o w).1 = .ok c' → ∃ s : KeySigner σ PublicKey,
    o.Staged w.files s ∧ c' = c.useSigner s.toSigner
  /-- Else its failure is that of the first stage that fails. -/
  refused : ∀ f, (c.useKey o w).1 = .error f ↔
    ∃ s : Stage, s.Reached o w.files ∧ Stage.Comes o w.files s (.error f)
  /-- And this does not depend on what only later stages look at. -/
  independent : ∀ (s : Stage) (f : Failure), s.Reached o w.files →
    Stage.Comes o w.files s (.error f) → ∀ (c' : Config σ) (o' : KeyOptions) (w' : World σ),
      (∀ t, t ∈ s.before ∨ t = s → t.Same o w.files o' w'.files) → (c'.useKey o' w').1 = .error f

/-- **A private key is configured in stages**, for all files and all options: all of them have to
succeed, and else the first one that fails is told, whatever later ones look at. -/
theorem useKey_inStages (c : Config σ) (o : KeyOptions) (w : World σ) : InStages c o w where
  accepted := by
    rw [useKey_fst]
    constructor
    · rintro ⟨c', h⟩
      obtain ⟨s, hs, _⟩ := Outcome.map_eq_ok_iff.1 h
      exact ((o.attempt_eq_ok_iff _).1 hs).passes
    · intro hpasses
      rcases o.concludes_attempt (σ := σ) w.files with ⟨s, hs, _⟩ | ⟨stage, f, _, hf, _⟩
      · exact ⟨_, Outcome.map_eq_ok_iff.2 ⟨s, hs, rfl⟩⟩
      · exact absurd hf (hpasses stage).not_comes_error
  built c' h := by
    rw [useKey_fst] at h
    obtain ⟨s, hs, rfl⟩ := Outcome.map_eq_ok_iff.1 h
    exact ⟨s, (o.attempt_eq_ok_iff _).1 hs, rfl⟩
  refused f := by
    rw [useKey_fst, Outcome.map_eq_error_iff, KeyOptions.attempt_eq_error_iff]
  independent s f hreached hf c' o' w' hsame := by
    rw [useKey_fst, Outcome.map_eq_error_iff, KeyOptions.attempt_eq_error_iff]
    exact ⟨s, hreached.transfer fun t ht => hsame t (.inl ht), hf.error_transfer hsame⟩

/-- Options with the credentials of the sample and an algorithm that is not known; a revocation
response is asked for that is not there. -/
def sampleOptions : KeyOptions where
  privateKey := KeySigner.Sample.pathTo "key"
  certificate := KeySigner.Sample.pathTo "cert"
  alg := .json (.str (txt "es"))
  ocspResponse := some (KeySigner.Sample.pathTo "response")

/-- Other options with the same algorithm: the key and the certificates are not even such, and there
is a password. -/
def otherOptions : KeyOptions where
  privateKey := KeySigner.Sample.pathTo "cert"
  certificate := KeySigner.Sample.pathTo "key"
  alg := .json (.str (txt "es"))
  password := some (txt "secret")

/-- It is the algorithm that is told in both cases. -/
theorem useKey_inStages_sample :
    let w := KeySigner.Sample.withFiles
    let f := Failure.credential (.unsupported ⟨.json (.str (txt "es"))⟩)
    Stage.algorithm.Reached sampleOptions w.files ∧
      Stage.Comes sampleOptions w.files .algorithm (.error f) ∧
      (∀ t, t ∈ Stage.algorithm.before ∨ t = .algorithm →
        t.Same sampleOptions w.files otherOptions w.files) ∧
      ((initial : Config Unit).useKey otherOptions w).1 = .error f := by
  intro w f
  have hcert : w.files.credentialAt (KeySigner.Sample.pathTo "cert") =
      .ok (KeySigner.Sample.armoured "CERTIFICATE" (KeySigner.Sample.certificate 300)) :=
    FileStore.contentAt_eq_ok_iff.2 KeySigner.Sample.gives_cert
  have hkey : w.files.credentialAt (KeySigner.Sample.pathTo "key") =
      .ok (KeySigner.Sample.armoured "PRIVATE KEY" KeySigner.Sample.privateKey) :=
    FileStore.contentAt_eq_ok_iff.2 KeySigner.Sample.gives_key
  have hbefore : Stage.algorithm.before = [.certificateFile, .keyFile] := rfl
  have hreached : Stage.algorithm.Reached sampleOptions w.files := by
    intro t ht
    rw [hbefore, List.mem_cons, List.mem_singleton] at ht
    rcases ht with rfl | rfl
    · exact ⟨_, Stage.Comes.of_eq .certificateFile hcert⟩
    · exact ⟨_, Stage.Comes.of_eq .keyFile hkey⟩
  have hcomes : Stage.Comes sampleOptions w.files .algorithm (.error f) := .algorithm
  have hsame : ∀ t, t ∈ Stage.algorithm.before ∨ t = .algorithm →
      t.Same sampleOptions w.files otherOptions w.files := by
    -- both files can be read in both cases, and that is all that is looked at
    have hread : w.files.readsAt (KeySigner.Sample.pathTo "cert") =
        w.files.readsAt (KeySigner.Sample.pathTo "key") :=
      (FileStore.readsAt_of_eq_ok hcert).trans (FileStore.readsAt_of_eq_ok hkey).symm
    intro t ht
    rw [hbefore, List.mem_cons, List.mem_singleton] at ht
    rcases ht with (rfl | rfl) | rfl
    · exact hread
    · exact hread.symm
    · rfl
  have hindependent := (useKey_inStages (initial : Config Unit) sampleOptions w).independent
  exact ⟨hreached, hcomes, hsame, hindependent _ _ hreached hcomes initial otherOptions w hsame⟩

end Config

end ClaimSeal

import ClaimSeal.Proofs.Files
import ClaimSeal.Proofs.Steps

/-!
**Signing a file writes the signature or nothing.**

To sign a claim in a file the claim is read as a whole, signed in memory and the signature written.
Up to the writing no file is changed, whatever the signer does and whichever step fails; after it
nothing fails any more.  On a steady disk the writing itself changes nothing if it fails.

Main definitions:

* `Operation.KeepsFiles` — an operation that leaves the files as they are;
* `Operation.SparesFiles` — an operation that leaves them as they are if it fails.

Main results:

* `Config.keepsFiles_signBytesUnder`, `Config.keepsFiles_useKey` — signing in memory and choosing a
  signer leave the files as they are;
* `Config.signOn_eq_ok_iff`, `Config.sign_eq_ok_iff` — what it takes to sign a file, and what that
  leaves;
* `Config.sparesFiles_signOn` — a file that is not signed leaves the others as they are;
* `Config.sign_all_or_nothing` — **all or nothing**.
-/

set_option autoImplicit false

namespace ClaimSeal

open Run

variable {σ α β : Type}

namespace Operation

/-! ### Operations that leave the files as they are -/

/-- An operation that leaves the files as they are, whatever comes of it. -/
def KeepsFiles (o : Operation σ α) : Prop := ∀ w, (o w).2.files = w.files

/-- An operation that leaves the files as they are if it fails. -/
def SparesFiles (o : Operation σ α) : Prop :=
  ∀ w w' f, o w = (.error f, w') → w'.files = w.files

theorem keepsFiles_pure (a : α) : KeepsFiles (pure a : Operation σ α) := fun _ => rfl

theorem keepsFiles_throw (f : Failure) : KeepsFiles (throw f : Operation σ α) := fun _ => rfl

theorem keepsFiles_act (a : Action σ α) : KeepsFiles (act a) := fun _ => rfl

theorem keepsFiles_log (level : Level) (text : Text) :
    KeepsFiles (log level text : Operation σ Unit) := fun _ => rfl

theorem keepsFiles_ofExcept {ε : Type} (failure : ε → Failure) (r : Except ε α) :
    KeepsFiles (ofExcept failure r : Operation σ α) := by
  cases r with
  | ok a => exact keepsFiles_pure a
  | error e => exact keepsFiles_throw (failure e)

theorem KeepsFiles.bind {o : Operation σ α} {f : α → Operation σ β} (ho : KeepsFiles o)
    (hf : ∀ a, KeepsFiles (f a)) : KeepsFiles (o >>= f) := by
  intro w
  have hw := ho w
  rw [bind_apply]
  rcases hrun : o w with ⟨r, v⟩
  rw [hrun] at hw
  cases r with
  | error e => exact hw
  | ok a => exact (hf a v).trans hw

theorem KeepsFiles.outcome {o : Operation σ α} (ho : KeepsFiles o) :
    KeepsFiles (Operation.outcome o) := ho

theorem keepsFiles_readFileOr (report : FileError → Failure) (p : Path) :
    KeepsFiles (readFileOr report p : Operation σ Bytes) := by
  refine (keepsFiles_ofExcept _ _).bind fun sys => ?_
  refine KeepsFiles.bind (fun _ => rfl) fun w => ?_
  exact keepsFiles_ofExcept _ _

theorem keepsFiles_path (p : PathArg) : KeepsFiles (Operation.path p : Operation σ Path) :=
  keepsFiles_ofExcept _ _

theorem inherited_keepsFiles : InheritedWithSigner fun _ (o : Operation σ _) => KeepsFiles o where
  pure := keepsFiles_pure
  throw := keepsFiles_throw
  log := keepsFiles_log
  readFileOr := keepsFiles_readFileOr
  bind := KeepsFiles.bind
  act := keepsFiles_act
  outcome := KeepsFiles.outcome

/-! ### Operations that leave the files as they are if they fail -/

theorem sparesFiles_write {d : Disk σ} (hd : d.Steady) (p : Path) (content : Bytes) :
    SparesFiles (d.write p content) := by
  intro w w' f h
  rw [(hd.refused h).1]

/-- What comes first may fail if it keeps the files. -/
theorem KeepsFiles.bind_spares {o : Operation σ α} {f : α → Operation σ β} (ho : KeepsFiles o)
    (hf : ∀ a, SparesFiles (f a)) : SparesFiles (o >>= f) := by
  intro w w' e h
  have hw := ho w
  rw [bind_apply] at h
  rcases hrun : o w with ⟨r, v⟩
  rw [hrun] at h hw
  cases r with
  | error e' =>
      obtain ⟨_, rfl⟩ := error_eq_error_iff.1 h
      exact hw
  | ok a => exact (hf a v w' e h).trans hw

/-- What comes after an operation that changes files must not fail. -/
theorem SparesFiles.bind_of_isOk {o : Operation σ α} {f : α → Operation σ β} (ho : SparesFiles o)
    (hf : ∀ a w, ∃ b w', f a w = (.ok b, w')) : SparesFiles (o >>= f) := by
  intro w w' e h
  rw [bind_apply] at h
  rcases hrun : o w with ⟨r, v⟩
  rw [hrun] at h
  cases r with
  | error e' =>
      obtain ⟨_, rfl⟩ := error_eq_error_iff.1 h
      exact ho w v e' hrun
  | ok a =>
      obtain ⟨b, v', hb⟩ := hf a v
      dsimp only at h
      rw [hb] at h
      exact absurd h.symm error_ne_ok

end Operation

open Operation

namespace Config

/-! ### Signing in memory and choosing a signer -/

theorem keepsFiles_signBytesUnder (limit : DigitLimit) (c : Config σ) (data : Bytes) :
    KeepsFiles (c.signBytesUnder limit data) := inherited_keepsFiles.signBytesUnder limit c data

theorem keepsFiles_useKey (c : Config σ) (o : KeyOptions) : KeepsFiles (c.useKey o) :=
  inherited_keepsFiles.useKey c o

/-! ### Signing a file -/

/-- A file is signed if its content is, and the signature is written. -/
theorem signOn_eq_ok_iff {d : Disk σ} {limit : DigitLimit} {c : Config σ}
    {claimPath signaturePath : PathArg} {w w' : World σ} {claim : SignedClaim} :
    c.signOn d limit claimPath signaturePath w = (.ok claim, w') ↔
      ∃ p q data v u, claimPath.toPath = .ok p ∧ w.files.Holds p data ∧
        c.signBytesUnder limit data w = (.ok claim, v) ∧ signaturePath.toPath = .ok q ∧
        d.write q claim.signature v = (.ok (), u) ∧
        w' = { u with log := u.log ++ [⟨.info, wroteLine claimPath signaturePath⟩] } := by
  simp only [signOn, bind_eq_ok_iff, path_eq_ok_iff, readFile_eq_ok_iff, pure_eq_ok_iff]
  constructor
  · rintro ⟨p, _, ⟨hp, rfl⟩, data, _, ⟨hdata, rfl⟩, signed, v, hsigned, q, _, ⟨hq, rfl⟩, _, u,
      hwrite, _, _, hlog, rfl, rfl⟩
    rw [log_apply, ok_eq_ok_iff] at hlog
    exact ⟨p, q, data, v, u, hp, hdata, hsigned, hq, hwrite, hlog.2.symm⟩
  · rintro ⟨p, q, data, v, u, hp, hdata, hsigned, hq, hwrite, rfl⟩
    exact ⟨p, w, ⟨hp, rfl⟩, data, w, ⟨hdata, rfl⟩, claim, v, hsigned, q, v, ⟨hq, rfl⟩, (), u,
      hwrite, (), _, log_apply _ _ _, rfl, rfl⟩

/-- With the file operations of the store the signature can be written if its path leads somewhere:
that is all that happens to the files. -/
theorem sign_eq_ok_iff {c : Config σ} {claimPath signaturePath : PathArg} {w w' : World σ}
    {claim : SignedClaim} :
    c.sign claimPath signaturePath w = (.ok claim, w') ↔
      ∃ p q data v l, claimPath.toPath = .ok p ∧ w.files.Holds p data ∧
        c.signBytes data w = (.ok claim, v) ∧ signaturePath.toPath = .ok q ∧
        w.files.LeadsTo q l ∧
        w' = { v with
          files := w.files.put l claim.signature
          log := v.log ++ [⟨.info, wroteLine claimPath signaturePath⟩] } := by
  have hkept : ∀ {data v}, c.signBytes data w = (.ok claim, v) → v.files = w.files := by
    intro data v hsigned
    have hkept := keepsFiles_signBytesUnder 0 c data w
    rwa [← signBytes, hsigned] at hkept
  rw [sign, signOn_eq_ok_iff]
  constructor
  · rintro ⟨p, q, data, v, u, hp, hdata, hsigned, hq, hwrite, rfl⟩
    obtain ⟨l, hl, rfl⟩ := writeFile_eq_ok_iff.1 hwrite
    rw [hkept hsigned] at hl ⊢
    exact ⟨p, q, data, v, l, hp, hdata, hsigned, hq, hl, rfl⟩
  · rintro ⟨p, q, data, v, l, hp, hdata, hsigned, hq, hl, rfl⟩
    rw [← hkept hsigned] at hl
    refine ⟨p, q, data, v, _, hp, hdata, hsigned, hq, writeFile_of_leadsTo hl _, ?_⟩
    rw [hkept hsigned]

/-- If a file is not signed the files are left as they are: everything that may fail comes before
the signature is written. -/
theorem sparesFiles_signOn {d : Disk σ} (hd : d.Steady) (limit : DigitLimit) (c : Config σ)
    (claimPath signaturePath : PathArg) :
    SparesFiles (c.signOn d limit claimPath signaturePath) := by
  refine (keepsFiles_path _).bind_spares fun p => ?_
  refine KeepsFiles.bind_spares (keepsFiles_readFileOr _ _) fun data => ?_
  refine (keepsFiles_signBytesUnder limit c data).bind_spares fun signed => ?_
  refine (keepsFiles_path _).bind_spares fun q => ?_
  exact (sparesFiles_write hd q _).bind_of_isOk fun _ w => ⟨signed, _, rfl⟩

/-- **All or nothing.**  Whatever the signer does and whatever the two paths are: either signing a
file fails and the files are as they were, or it gives what signing the content of the claim's file
gives, and the only change to the files is that the signature is where the signature's path
leads. -/
theorem sign_all_or_nothing (c : Config σ) (claimPath signaturePath : PathArg) (w : World σ) :
    (∃ f w', c.sign claimPath signaturePath w = (.error f, w') ∧ w'.files = w.files) ∨
      ∃ claim w' p q data v l, c.sign claimPath signaturePath w = (.ok claim, w') ∧
        claimPath.toPath = .ok p ∧ w.files.Holds p data ∧ c.signBytes data w = (.ok claim, v) ∧
        signaturePath.toPath = .ok q ∧ w.files.LeadsTo q l ∧
        w'.files.Holds q claim.signature ∧ FileStore.SameDirs w.files w'.files ∧
        ∀ k, w'.files.content? k = if k = l then some claim.signature else w.files.content? k := by
  rcases hrun : c.sign claimPath signaturePath w with ⟨r, w'⟩
  cases r with
  | error f => exact .inl ⟨f, w', rfl, sparesFiles_signOn Disk.steady_store 0 c _ _ w w' f hrun⟩
  | ok claim =>
      obtain ⟨p, q, data, v, l, hp, hdata, hsigned, hq, hl, rfl⟩ := sign_eq_ok_iff.1 hrun
      refine .inr ⟨claim, _, p, q, data, v, l, rfl, hp, hdata, hsigned, hq, hl, hl.holds_put _,
        FileStore.sameDirs_put _ _ _, ?_⟩
      intro k
      split
      · next hk => rw [hk, FileStore.content?_put_self]
      · next hk => exact FileStore.content?_put_of_ne hk _ _

/-- The claim's file may be the one that the signature is written to. -/
example :
    let path := PathArg.path (Path.parse (txt "c"))
    let files : FileStore := ⟨[], [], [([ascii "c"], ascii "x")]⟩
    ((initial : Config Unit).sign path path ⟨files, [], ()⟩).2.files =
      ⟨[], [], [([ascii "c"], invalidSignature)]⟩ := by
  rfl

end Config

end ClaimSeal

import ClaimSeal.Custody
import ClaimSeal.Proofs.CheckedSigning
import ClaimSeal.Proofs.KeySigner.Origin
import ClaimSeal.Proofs.KeySigner.Reservation
import ClaimSeal.Proofs.LogLines
import ClaimSeal.Proofs.Objects
import ClaimSeal.Proofs.SignedFile
import ClaimSeal.Proofs.Sources
import ClaimSeal.Proofs.Workers.Turns

/-!
**What signing does to the backend.**

A signer with a key acts on the backend in one way: it uses its key.  All else that is done to sign
a claim, in memory or in files, at once or by turns, leaves the backend as it is.  So the backend
ends where one use of the key leaves it.

Main definitions:

* `Operation.KeepsBackend` — an operation that leaves the backend as it is.

Main results:

* `KeySigner.sign_recorded` — a signer uses its key once, whatever becomes of the answer;
* `KeySigner.backend_signClaim`, `KeySigner.backend_signBytes` — so does signing with checks;
* `Config.backend_sign` — a claim in a file is signed if the file can be read.
-/

set_option autoImplicit false

namespace ClaimSeal

open Run Operation

variable {σ κ α β γ : Type}

/-! ### Operations that leave the backend as it is -/

namespace Operation

/-- An operation that leaves the backend as it is, whatever comes of it. -/
def KeepsBackend (o : Operation σ α) : Prop := ∀ w, (o w).2.backend = w.backend

theorem OnlyLogs.keepsBackend {o : Operation σ α} (h : OnlyLogs o) : KeepsBackend o := by
  intro w
  obtain ⟨lines, hlines⟩ := h w
  rw [hlines]

theorem keepsBackend_writeFile (p : Path) (content : Bytes) :
    KeepsBackend (writeFile p content : Operation σ Unit) := by
  intro w
  rw [writeFile_apply]
  split
  · rfl
  · split <;> rfl

theorem KeepsBackend.bind {o : Operation σ α} {f : α → Operation σ β} (ho : KeepsBackend o)
    (hf : ∀ a, KeepsBackend (f a)) : KeepsBackend (o >>= f) := by
  intro w
  have hw := ho w
  rw [bind_apply]
  rcases hrun : o w with ⟨r, v⟩
  rw [hrun] at hw
  cases r with
  | error e => exact hw
  | ok a => exact (hf a v).trans hw

/-- The backend is not touched by what comes last. -/
theorem backend_bind {o : Operation σ α} {f : α → Operation σ β} (hf : ∀ a, KeepsBackend (f a))
    (w : World σ) : ((o >>= f) w).2.backend = (o w).2.backend := by
  rw [bind_apply]
  rcases o w with ⟨r, v⟩
  cases r with
  | error e => rfl
  | ok a => exact hf a v

end Operation

/-! ### Signing uses the key once -/

namespace KeySigner

variable (s : KeySigner σ κ) (claim : Bytes)

/-- A signer uses its key in the way of its algorithm. -/
theorem keyUse_eq_use : s.keyUse = s.alg.use := by
  rw [keyUse]
  cases s.alg <;> rfl

/-- A signer whose key records its uses answers as one whose key does not, and whatever becomes of
the answer, one use is recorded. -/
theorem sign_recorded (b : σ) (uses : List Use) :
    s.recorded.sign claim (b, uses) =
      ((s.sign claim b).1, ((s.sign claim b).2, uses ++ [(s.submission claim).use])) := by
  have hrecorded : s.recorded.key.sign s.recorded.keyUse claim (b, uses) =
      ((s.key.sign s.keyUse claim b).1,
        ((s.key.sign s.keyUse claim b).2, uses ++ [(s.submission claim).use])) := by
    rw [Submission.use, submission, ← keyUse_eq_use]
    rfl
  rcases hkey : s.key.sign s.keyUse claim b with ⟨f | answer, b'⟩
  · rw [hkey] at hrecorded
    rw [sign_of_fault hkey, sign_of_fault hrecorded]
    rfl
  · rw [hkey] at hrecorded
    rw [sign_of_answer hkey, sign_of_answer hrecorded]
    rfl

theorem backend_perform_sign (w : World σ) :
    (act (s.toSigner.perform (.sign claim)) w).2.backend = (s.sign claim w.backend).2 := by
  rw [act, Signer.perform, bind_apply]
  rcases hsign : s.toSigner.sign claim w.backend with ⟨answer, b'⟩
  have hkey : s.sign claim w.backend = (answer, b') := hsign
  rw [hkey]
  cases answer <;> rfl

theorem backend_signClaim (w : World σ) :
    (s.toSigner.signClaim claim w).2.backend = (s.sign claim w.backend).2 := by
  rcases hsign : s.sign claim w.backend with ⟨answer, b'⟩
  have htells : s.toSigner.Tells claim w.backend s.reserveSize answer b' :=
    ⟨w.backend, rfl, hsign⟩
  rw [Signer.signClaim_of_tells htells]
  cases answer <;> rfl

theorem backend_signBytes (w : World σ) :
    (Config.signBytes ⟨s.toSigner⟩ claim w).2.backend = (s.sign claim w.backend).2 := by
  rw [← backend_signClaim, signBytes_apply]
  rcases s.toSigner.signClaim claim w with ⟨r, w'⟩
  cases r <;> rfl

/-- A signer has the key that it is built from. -/
theorem key_of_build [DecidableEq κ] {key : PrivateKey σ κ} {certs : List (Certificate κ)}
    {alg : Algorithm} {tsaUrl : Option Text} {ocsp : Option Bytes} {w : World σ}
    {s : KeySigner σ κ} (h : (build key certs alg tsaUrl ocsp w).1 = .ok s) : s.key = key := by
  rcases hbuild : build key certs alg tsaUrl ocsp w with ⟨r, w'⟩
  rw [hbuild] at h
  obtain rfl : r = .ok s := h
  obtain ⟨_, _, _, rfl, _⟩ := assemble_eq_ok_iff.1 (assemble_of_build hbuild)
  rfl

theorem key_of_withOcsp {s s' : KeySigner σ κ} {response : Bytes}
    (h : s.withOcsp response = .ok s') : s'.key = s.key := by
  obtain ⟨_, rfl⟩ := withOcsp_eq_ok_iff.1 h
  rfl

end KeySigner

/-- Nothing is signed when an answer is classified, logged and checked. -/
theorem AsyncSigner.keepsBackend_conclude (claim : Bytes) (reserved : Int)
    (answer : Except Failure Bytes) :
    KeepsBackend (AsyncSigner.conclude claim reserved answer : Operation σ Bytes) := by
  cases answer with
  | error f =>
      rw [conclude_error]
      exact (onlyLogs_throw _).keepsBackend
  | ok signature => exact ((onlyLogs_log _ _).bind fun _ => onlyLogs_ofExcept _ _).keepsBackend

/-! ### Signing a file -/

/-- To read the file that a caller means gives what is in the files. -/
theorem Operation.path_bind_readFile_apply (p : PathArg) (f : Bytes → Operation σ α) (w : World σ) :
    (do let data ← Operation.readFile (← Operation.path p); f data) w =
      match w.files.contentAt (fun _ => .file) p with
      | .ok content => f content w
      | .error e => (.error e, w) := by
  rw [Operation.path, ofExcept_bind_apply]
  cases hpath : p.toPath with
  | error d =>
      rw [FileStore.contentAt, hpath]
      rfl
  | ok path =>
      dsimp only
      rw [bind_apply, Operation.readFile, readFileOr_apply, FileStore.contentAt_of_toPath hpath]
      cases (do
        let sys ← path.toSystem.mapError Failure.path
        (w.files.read sys).mapError Failure.file : Except Failure Bytes) <;> rfl

/-- Nothing is signed if the claim's file cannot be read, and else its content is. -/
theorem Config.backend_sign (c : Config σ) (claim signature : PathArg) (w : World σ) :
    (c.sign claim signature w).2.backend = match w.files.contentAt (fun _ => .file) claim with
      | .error _ => w.backend
      | .ok content => (c.signBytes content w).2.backend := by
  -- what comes after the signature is made does not touch the backend
  have hafter : ∀ signed : SignedClaim, KeepsBackend (do
      Operation.writeFile (← Operation.path signature) signed.signature
      Operation.log .info (wroteLine claim signature)
      return signed : Operation σ SignedClaim) := fun signed =>
    (onlyLogs_ofExcept _ _).keepsBackend.bind fun q => (keepsBackend_writeFile q _).bind fun _ =>
      ((onlyLogs_log _ _).bind fun _ => onlyLogs_pure _).keepsBackend
  rw [sign_eq, path_bind_readFile_apply]
  cases w.files.contentAt (fun _ => .file) claim with
  | error e => rfl
  | ok content => exact backend_bind hafter w

end ClaimSeal

import ClaimSeal.Proofs.Steps

/-!
**The log is only ever added to.**

No operation reads the log.  So what an operation gives, and the lines that it adds, do not depend
on the lines that are there.  To read credentials and to build a signer from them does nothing but
add lines.

Main definitions:

* `World.after` — a world with more lines in front of its log;
* `Operation.IgnoresLog` — an operation to which it makes no difference what is logged already;
* `Operation.OnlyLogs` — an operation that does nothing but log.

Main results:

* `Config.ignoresLog_keySigner`, `Config.ignoresLog_signBytes`, `Config.ignoresLog_sign` —
  **choosing a signer and signing do not depend on the log**;
* `Config.onlyLogs_keySigner` — building a signer from files only logs.
-/

set_option autoImplicit false

namespace ClaimSeal

open Run

variable {σ α β : Type}

/-- A world with more lines in front of its log. -/
def World.after (lines : List LogLine) (w : World σ) : World σ := { w with log := lines ++ w.log }

namespace Operation

/-! ### Operations that do not depend on the log -/

/-- An operation to which it makes no difference what is logged already. -/
def IgnoresLog (o : Operation σ α) : Prop :=
  ∀ lines w, o (w.after lines) = ((o w).1, (o w).2.after lines)

theorem ignoresLog_pure (a : α) : IgnoresLog (pure a : Operation σ α) := fun _ _ => rfl

theorem ignoresLog_throw (f : Failure) : IgnoresLog (throw f : Operation σ α) := fun _ _ => rfl

theorem ignoresLog_act (a : Action σ α) : IgnoresLog (act a) := fun _ _ => rfl

theorem ignoresLog_log (level : Level) (text : Text) :
    IgnoresLog (log level text : Operation σ Unit) := by
  intro lines w
  rw [log_apply, log_apply, World.after, World.after, List.append_assoc]

theorem ignoresLog_ofExcept {ε : Type} (failure : ε → Failure) (r : Except ε α) :
    IgnoresLog (ofExcept failure r : Operation σ α) := by
  cases r with
  | ok a => exact ignoresLog_pure a
  | error e => exact ignoresLog_throw (failure e)

theorem IgnoresLog.bind {o : Operation σ α} {f : α → Operation σ β} (ho : IgnoresLog o)
    (hf : ∀ a, IgnoresLog (f a)) : IgnoresLog (o >>= f) := by
  intro lines w
  rw [bind_apply, bind_apply, ho]
  rcases o w with ⟨r, v⟩
  cases r with
  | error e => rfl
  | ok a => exact hf a lines v

theorem IgnoresLog.outcome {o : Operation σ α} (ho : IgnoresLog o) :
    IgnoresLog (Operation.outcome o) := by
  intro lines w
  rw [outcome_apply, outcome_apply, ho]

/-- What comes after a look at the world may depend on all of it but its log. -/
theorem ignoresLog_get_bind {f : World σ → Operation σ α}
    (hf : ∀ lines w, f (w.after lines) (w.after lines) = ((f w w).1, (f w w).2.after lines)) :
    IgnoresLog (get >>= f) := hf

theorem ignoresLog_readFileOr (report : FileError → Failure) (p : Path) :
    IgnoresLog (readFileOr report p : Operation σ Bytes) := by
  refine (ignoresLog_ofExcept _ _).bind fun sys => ignoresLog_get_bind ?_
  intro lines w
  exact ignoresLog_ofExcept report (w.files.read sys) lines w

theorem ignoresLog_writeFile (p : Path) (content : Bytes) :
    IgnoresLog (writeFile p content : Operation σ Unit) := by
  refine (ignoresLog_ofExcept _ _).bind fun sys => ignoresLog_get_bind ?_
  intro lines w
  rw [ofExcept_bind_apply, ofExcept_bind_apply, World.after]
  cases w.files.write sys content <;> rfl

theorem inherited_ignoresLog : InheritedWithSigner fun _ (o : Operation σ _) => IgnoresLog o where
  pure := ignoresLog_pure
  throw := ignoresLog_throw
  log := ignoresLog_log
  readFileOr := ignoresLog_readFileOr
  bind := IgnoresLog.bind
  act := ignoresLog_act
  outcome := IgnoresLog.outcome

/-! ### Operations that only log -/

/-- An operation that does nothing but log. -/
def OnlyLogs (o : Operation σ α) : Prop :=
  ∀ w, ∃ lines, (o w).2 = { w with log := w.log ++ lines }

theorem onlyLogs_pure (a : α) : OnlyLogs (pure a : Operation σ α) :=
  fun w => ⟨[], by rw [List.append_nil]; rfl⟩

theorem onlyLogs_throw (f : Failure) : OnlyLogs (throw f : Operation σ α) :=
  fun w => ⟨[], by rw [List.append_nil]; rfl⟩

theorem onlyLogs_log (level : Level) (text : Text) :
    OnlyLogs (log level text : Operation σ Unit) := fun _ => ⟨_, rfl⟩

theorem onlyLogs_ofExcept {ε : Type} (failure : ε → Failure) (r : Except ε α) :
    OnlyLogs (ofExcept failure r : Operation σ α) := by
  cases r with
  | ok a => exact onlyLogs_pure a
  | error e => exact onlyLogs_throw (failure e)

theorem OnlyLogs.bind {o : Operation σ α} {f : α → Operation σ β} (ho : OnlyLogs o)
    (hf : ∀ a, OnlyLogs (f a)) : OnlyLogs (o >>= f) := by
  intro w
  obtain ⟨lines, hlines⟩ := ho w
  rw [bind_apply]
  rcases hrun : o w with ⟨r, v⟩
  rw [hrun] at hlines
  cases r with
  | error e => exact ⟨lines, hlines⟩
  | ok a =>
      obtain ⟨more, hmore⟩ := hf a v
      obtain rfl : v = _ := hlines
      exact ⟨lines ++ more, by rw [← List.append_assoc]; exact hmore⟩

theorem onlyLogs_readFileOr (report : FileError → Failure) (p : Path) :
    OnlyLogs (readFileOr report p : Operation σ Bytes) := by
  refine (onlyLogs_ofExcept _ _).bind fun sys => ?_
  intro w
  exact onlyLogs_ofExcept report (w.files.read sys) w

theorem inherited_onlyLogs : Inherited fun _ (o : Operation σ _) => OnlyLogs o where
  pure := onlyLogs_pure
  throw := onlyLogs_throw
  log := onlyLogs_log
  readFileOr := onlyLogs_readFileOr
  bind := OnlyLogs.bind

end Operation

open Operation

namespace Config

/-! ### Choosing a signer and signing -/

theorem ignoresLog_keySigner (o : KeyOptions) :
    IgnoresLog (keySigner o : Operation σ (KeySigner σ PublicKey)) :=
  inherited_ignoresLog.keySigner o

/-- Building a signer from files only logs. -/
theorem onlyLogs_keySigner (o : KeyOptions) :
    OnlyLogs (keySigner o : Operation σ (KeySigner σ PublicKey)) :=
  inherited_onlyLogs.keySigner o

theorem ignoresLog_signBytes (c : Config σ) (data : Bytes) : IgnoresLog (c.signBytes data) :=
  inherited_ignoresLog.signBytes c data

theorem ignoresLog_sign (c : Config σ) (claim signature : PathArg) :
    IgnoresLog (c.sign claim signature) := by
  refine (ignoresLog_ofExcept _ _).bind fun p => ?_
  refine IgnoresLog.bind (ignoresLog_readFileOr _ _) fun data => ?_
  refine (ignoresLog_signBytes c data).bind fun signed => ?_
  refine (ignoresLog_ofExcept _ _).bind fun q => ?_
  refine (ignoresLog_writeFile q _).bind fun _ => ?_
  exact (ignoresLog_log _ _).bind fun _ => ignoresLog_pure _

end Config

end ClaimSeal

import ClaimSeal.Proofs.LogLines
import ClaimSeal.Proofs.SizeCheck
import ClaimSeal.Session

/-!
**A configuration has the signer that was set last.**

Methods that sign only ask the signer, and the one that configures a private key assigns only what
has been built and accepted.  So a call either sets a signer and does not fail, or it leaves the
signer as it was.  A failure to configure a private key leaves nothing behind but lines in the log,
which nothing reads: whatever is called afterwards gives what it would have given without it.

Main definitions:

* `Config.Performs` — a method does what an operation does, and keeps the configuration.

Main results:

* `Config.performs_signBytes`, `Config.performs_sign`, `Config.Method.useKey_eq` — the methods, step
  by step, do what the operations do;
* `Session.signer_step`, `Session.signer_run` — the signer after one call and after many;
* `Session.step_after`, `Session.run_after` — calls do not depend on what is logged;
* `Session.signer_last_set` — **a configuration has the signer that was set last**, and failures to
  configure a private key make no difference.
-/

set_option autoImplicit false

namespace ClaimSeal

open Run

variable {σ α β ι : Type}

namespace Config

/-! ### What methods do -/

/-- A method does what an operation does, and keeps the configuration. -/
def Performs (c : Config σ) (m : Method σ α) (o : Operation σ α) : Prop :=
  ∀ w, m (c, w) = ((o w).1, (c, (o w).2))

section Performs

variable {c : Config σ}

theorem performs_pure (a : α) : Performs c (pure a) (pure a) := fun _ => rfl

theorem performs_lift (o : Operation σ α) : Performs c (Method.lift o) o := fun _ => rfl

theorem performs_withSigner (f : Signer σ → Operation σ α) :
    Performs c (Method.withSigner f) (f c.signer) := fun _ => rfl

theorem performs_ask (question : Signer σ → Action σ α) :
    Performs c (Method.ask question) (Operation.act (question c.signer)) := performs_withSigner _

theorem Performs.bind {m : Method σ α} {o : Operation σ α} {f : α → Method σ β}
    {f' : α → Operation σ β} (hm : Performs c m o) (hf : ∀ a, Performs c (f a) (f' a)) :
    Performs c (m >>= f) (o >>= f') := by
  intro w
  rw [bind_apply, bind_apply, hm]
  rcases o w with ⟨r, v⟩
  cases r with
  | error e => rfl
  | ok a => exact hf a v

/-- Signing in memory keeps the configuration. -/
theorem performs_signBytes (data : Bytes) :
    Performs c (Method.signBytes data) (c.signBytes data) :=
  (performs_ask _).bind fun _ => (performs_ask _).bind fun _ => (performs_ask _).bind fun _ =>
    (performs_withSigner _).bind fun _ => (performs_ask _).bind fun _ =>
      (performs_ask _).bind fun _ => performs_pure _

/-- Signing a file keeps the configuration. -/
theorem performs_sign (claim signature : PathArg) :
    Performs c (Method.sign claim signature) (c.sign claim signature) :=
  (performs_lift _).bind fun _ => (performs_lift _).bind fun _ =>
    (performs_signBytes _).bind fun _ => (performs_lift _).bind fun _ =>
      (performs_lift _).bind fun _ => (performs_lift _).bind fun _ => performs_pure _

theorem performs_attach (s : KeySigner σ PublicKey) (p : Option PathArg) :
    Performs c (Method.attach s p) (match p with
      | none => return s
      | some p => do
          let response ← readCredential p
          Operation.ofExcept id (s.withOcsp response)) := by
  cases p with
  | none => exact performs_pure s
  | some p => exact (performs_lift _).bind fun _ => performs_lift _

/-- Building a signer keeps the configuration. -/
theorem performs_keySigner (o : KeyOptions) :
    Performs c (Method.keySigner o) (keySigner o) :=
  (performs_lift _).bind fun s => performs_attach s _

end Performs

/-- A private key is configured by the signer that is built, once that is built as a whole. -/
theorem Method.useKey_apply (o : KeyOptions) (c : Config σ) (w : World σ) :
    Method.useKey o (c, w) = match Config.keySigner o w with
      | (.ok s, w') => (.ok (), (⟨s.toSigner⟩, w'))
      | (.error f, w') => (.error f, (c, w')) := by
  rw [Method.useKey, bind_apply, performs_keySigner]
  rcases Config.keySigner o w with ⟨r, w'⟩
  cases r <;> rfl

/-- If the signer cannot be built the configuration stays. -/
theorem Method.useKey_eq (o : KeyOptions) (c : Config σ) (w : World σ) :
    Method.useKey o (c, w) = match c.useKey o w with
      | (.ok c', w') => (.ok (), (c', w'))
      | (.error f, w') => (.error f, (c, w')) := by
  rw [useKey_apply, Config.useKey, bind_apply]
  rcases Config.keySigner o w with ⟨r, w'⟩
  cases r <;> rfl

end Config

namespace Session

open Config

/-! ### The signer after a call -/

/-- After a call a configuration has the signer that the call set, or the one that it had. -/
theorem signer_method (command : Command σ) (c : Config σ) (i : ι) (w : World σ) :
    (command.method (c, w)).2.1.signer =
      (Event.set? ⟨i, command, w, (command.method (c, w)).1⟩).getD c.signer := by
  cases command with
  | useSigner s => rfl
  | usePlaceholder => rfl
  | useKey o =>
      rw [Command.method, bind_apply, Method.useKey_apply, Event.set?, Command.signer?]
      rcases keySigner o w with ⟨r, w'⟩
      cases r <;> rfl
  | signBytes data =>
      have h := (performs_signBytes (c := c) data).bind fun a => performs_pure (Reply.signed a)
      rw [Command.method, h, Event.set?]
      cases ((c.signBytes data >>= fun a => pure (Reply.signed a)) w).1 <;> rfl
  | sign claim signature =>
      have h := (performs_sign (c := c) claim signature).bind fun a =>
        performs_pure (Reply.signed a)
      rw [Command.method, h, Event.set?]
      cases ((c.sign claim signature >>= fun a => pure (Reply.signed a)) w).1 <;> rfl

/-- A call sets a signer exactly when it is to set one and does not fail. -/
theorem isSome_set? (command : Command σ) (c : Config σ) (i : ι) (w : World σ) :
    (Event.set? ⟨i, command, w, (command.method (c, w)).1⟩).isSome =
      (command.sets && (command.method (c, w)).1.isOk) := by
  cases command with
  | useSigner s => rfl
  | usePlaceholder => rfl
  | useKey o =>
      rw [Command.method, bind_apply, Method.useKey_apply, Event.set?, Command.signer?]
      rcases keySigner o w with ⟨r, w'⟩
      cases r <;> rfl
  | signBytes data =>
      rw [Event.set?]
      cases ((Command.signBytes data).method (c, w)).1 <;> rfl
  | sign claim signature =>
      rw [Event.set?]
      cases ((Command.sign claim signature).method (c, w)).1 <;> rfl

/-! ### Methods and the log -/

/-- A session with more lines in front of its log. -/
def after (lines : List LogLine) (g : Session ι σ) : Session ι σ :=
  { g with world := g.world.after lines }

/-- A session with an empty log. -/
def unlogged (g : Session ι σ) : Session ι σ := { g with world := { g.world with log := [] } }

theorem after_unlogged (g : Session ι σ) (lines : List LogLine) :
    g.unlogged.after lines = { g with world := { g.world with log := lines } } := by
  rw [after, World.after, unlogged, List.append_nil]

/-- What a method that does what an operation does gives does not depend on what is logged. -/
theorem performs_after {c : Config σ} {m : Method σ α} {o : Operation σ α} (hm : Performs c m o)
    (ho : o.IgnoresLog) (lines : List LogLine) (w : World σ) :
    m (c, w.after lines) = ((m (c, w)).1, ((m (c, w)).2.1, (m (c, w)).2.2.after lines)) := by
  rw [hm, hm, ho]

theorem method_after (command : Command σ) (c : Config σ) (lines : List LogLine) (w : World σ) :
    command.method (c, w.after lines) =
      ((command.method (c, w)).1,
        ((command.method (c, w)).2.1, (command.method (c, w)).2.2.after lines)) := by
  cases command with
  | useSigner s => rfl
  | usePlaceholder => rfl
  | useKey o =>
      rw [Command.method, bind_apply, bind_apply, Method.useKey_apply, Method.useKey_apply,
        ignoresLog_keySigner]
      rcases keySigner o w with ⟨r, w'⟩
      cases r <;> rfl
  | signBytes data =>
      exact performs_after ((performs_signBytes data).bind fun a => performs_pure (Reply.signed a))
        ((ignoresLog_signBytes c data).bind fun _ => Operation.ignoresLog_pure _) lines w
  | sign claim signature =>
      exact performs_after
        ((performs_sign claim signature).bind fun a => performs_pure (Reply.signed a))
        ((ignoresLog_sign c claim signature).bind fun _ => Operation.ignoresLog_pure _) lines w

variable [DecidableEq ι]

/-! ### Calls, one after another -/

/-- The event of a call. -/
def event (g : Session ι σ) (i : ι) (command : Command σ) : Event ι σ :=
  ⟨i, command, g.world, (g.step i command).1⟩

theorem run_cons (i : ι) (command : Command σ) (calls : List (ι × Command σ)) (g : Session ι σ) :
    run ((i, command) :: calls) g =
      (g.event i command :: (run calls (g.step i command).2).1,
        (run calls (g.step i command).2).2) := rfl

/-- A call sets the signer of its own configuration, if it does. -/
theorem signer_step (g : Session ι σ) (i j : ι) (command : Command σ) :
    ((g.step i command).2.configs j).signer =
      if i = j then ((g.event i command).set?).getD (g.configs j).signer
      else (g.configs j).signer := by
  by_cases h : i = j
  · obtain rfl := h
    rw [if_pos rfl, step]
    show (if i = i then (command.method (g.configs i, g.world)).2.1 else g.configs i).signer = _
    rw [if_pos rfl, signer_method command (g.configs i) i g.world]
    rfl
  · rw [if_neg h, step]
    show (if j = i then (command.method (g.configs i, g.world)).2.1 else g.configs j).signer = _
    rw [if_neg fun hji => h hji.symm]

theorem getD_lastSet?_cons (j : ι) (e : Event ι σ) (events : List (Event ι σ)) (s : Signer σ) :
    (lastSet? j (e :: events)).getD s =
      (lastSet? j events).getD (if e.who = j then e.set?.getD s else s) := by
  rw [lastSet?, List.filterMap_cons]
  by_cases h : e.who = j
  · rw [if_pos h, if_pos h]
    cases e.set? with
    | none => rfl
    | some s' =>
        rw [List.getLast?_cons]
        rfl
  · rw [if_neg h, if_neg h]
    rfl

/-- After any calls a configuration has the signer that was set last, or the one that it had. -/
theorem signer_run (calls : List (ι × Command σ)) (g : Session ι σ) (j : ι) :
    ((run calls g).2.configs j).signer =
      (lastSet? j (run calls g).1).getD (g.configs j).signer := by
  induction calls generalizing g with
  | nil => rfl
  | cons call calls ih =>
      obtain ⟨i, command⟩ := call
      rw [run_cons, ih, getD_lastSet?_cons, signer_step]
      rfl

/-- In a run, too, a call sets a signer exactly when it is to set one and does not fail. -/
theorem isSome_set?_of_mem_run {calls : List (ι × Command σ)} {g : Session ι σ} {e : Event ι σ}
    (h : e ∈ (run calls g).1) : e.set?.isSome = (e.command.sets && e.outcome.isOk) := by
  induction calls generalizing g with
  | nil => cases h
  | cons call calls ih =>
      obtain ⟨i, command⟩ := call
      rw [run_cons] at h
      rcases List.mem_cons.1 h with rfl | h
      · exact isSome_set? command (g.configs i) i g.world
      · exact ih h

/-- Signing, and calls of other configurations, keep the signer. -/
theorem configs_step {g : Session ι σ} {i j : ι} {command : Command σ}
    (h : i ≠ j ∨ command.sets = false) : (g.step i command).2.configs j = g.configs j := by
  have hsigner : ((g.step i command).2.configs j).signer = (g.configs j).signer := by
    rw [signer_step]
    split
    · next hij =>
        have hsets := h.resolve_left fun hne => hne hij
        have hnone : (g.event i command).set? = none := by
          have hset := isSome_set? command (g.configs i) i g.world
          rw [hsets, Bool.false_and] at hset
          exact Option.not_isSome_iff_eq_none.1 (Bool.eq_false_iff.1 hset)
        rw [hnone]
        rfl
    · rfl
  exact congrArg Config.mk hsigner

/-! ### Calls and the log -/

/-- A call does not depend on what is logged. -/
theorem step_after (g : Session ι σ) (i : ι) (command : Command σ) (lines : List LogLine) :
    (g.after lines).step i command = ((g.step i command).1, (g.step i command).2.after lines) := by
  have h := method_after command (g.configs i) lines g.world
  rw [step, after]
  dsimp only
  rw [h]
  rfl

/-- Neither do many calls. -/
theorem run_after (calls : List (ι × Command σ)) (g : Session ι σ) (lines : List LogLine) :
    (run calls (g.after lines)).1.map Event.outcome = (run calls g).1.map Event.outcome ∧
      (run calls (g.after lines)).2 = (run calls g).2.after lines := by
  induction calls generalizing g with
  | nil => exact ⟨rfl, rfl⟩
  | cons call calls ih =>
      obtain ⟨i, command⟩ := call
      obtain ⟨houtcomes, hlast⟩ := ih (g.step i command).2
      rw [run_cons, run_cons, step_after]
      refine ⟨?_, hlast⟩
      rw [List.map_cons, List.map_cons, houtcomes, event, event, step_after]

/-! ### Failures to configure a private key -/

/-- A failure to configure a private key leaves nothing but lines in the log. -/
theorem step_useKey_of_error {g g' : Session ι σ} {i : ι} {o : KeyOptions} {f : Failure}
    (h : g.step i (.useKey o) = (.error f, g')) :
    ∃ lines, g' = { g with world := { g.world with log := g.world.log ++ lines } } := by
  obtain ⟨lines, hlines⟩ := onlyLogs_keySigner o g.world
  refine ⟨lines, ?_⟩
  rw [step, Command.method, bind_apply, Method.useKey_apply] at h
  rcases hrun : keySigner o g.world with ⟨r, w'⟩
  rw [hrun] at h hlines
  cases r with
  | ok s => cases h
  | error e =>
      obtain ⟨_, rfl⟩ := Prod.mk.inj h
      obtain rfl : w' = _ := hlines
      have hconfigs : (fun j => if j = i then g.configs i else g.configs j) = g.configs := by
        funext j
        split
        · next hj => rw [hj]
        · rfl
      exact congrArg (fun configs => (⟨configs, _⟩ : Session ι σ)) hconfigs

/-- **A configuration has the signer that was set last** by a call of its own that did not fail, or
a placeholder if none was.  Signing and calls of other configurations keep the signer.  A failure to
configure a private key leaves all configurations, the files and the backends as they are; whatever
is called afterwards gives the same, and leaves the same, but for the lines that were logged. -/
theorem signer_last_set :
    (∀ (calls : List (ι × Command σ)) (w : World σ) (j : ι),
      ((run calls (start w)).2.configs j).signer =
        (lastSet? j (run calls (start w : Session ι σ)).1).getD .placeholder) ∧
    (∀ (calls : List (ι × Command σ)) (w : World σ),
      ∀ e ∈ (run calls (start w : Session ι σ)).1,
        e.set?.isSome = (e.command.sets && e.outcome.isOk)) ∧
    (∀ (g : Session ι σ) (i j : ι) (command : Command σ), i ≠ j ∨ command.sets = false →
      (g.step i command).2.configs j = g.configs j) ∧
    ∀ (g g' : Session ι σ) (i : ι) (o : KeyOptions) (f : Failure),
      g.step i (.useKey o) = (.error f, g') →
        ∃ lines, g' = { g with world := { g.world with log := g.world.log ++ lines } } ∧
          ∀ calls,
            (run calls g').1.map Event.outcome = (run calls g).1.map Event.outcome ∧
            (run calls g').2.configs = (run calls g).2.configs ∧
            ∃ new, (run calls g).2.world.log = g.world.log ++ new ∧
              (run calls g').2.world =
                { (run calls g).2.world with log := g.world.log ++ lines ++ new } := by
  refine ⟨?last, ?sets, ?kept, ?failed⟩
  case last =>
    intro calls w j
    exact signer_run calls (start w) j
  case sets =>
    intro calls w e he
    exact isSome_set?_of_mem_run he
  case kept =>
    intro g i j command h
    exact configs_step h
  case failed =>
    intro g g' i o f h
    obtain ⟨lines, rfl⟩ := step_useKey_of_error h
    refine ⟨lines, rfl, ?_⟩
    intro calls
    -- both runs are a run from an empty log, with different lines in front
    have hkept : g = g.unlogged.after g.world.log := (g.after_unlogged g.world.log).symm
    obtain ⟨houtcomes, hlast⟩ := run_after calls g.unlogged g.world.log
    obtain ⟨houtcomes', hlast'⟩ := run_after calls g.unlogged (g.world.log ++ lines)
    rw [← hkept] at houtcomes hlast
    rw [← after_unlogged, houtcomes', houtcomes, hlast, hlast']
    exact ⟨rfl, rfl, (run calls g.unlogged).2.world.log, rfl, rfl⟩

/-- Options with files that are not there. -/
def missingFiles : KeyOptions where
  privateKey := .path (Path.parse (txt "key"))
  certificate := .path (Path.parse (txt "cert"))
  alg := .json (.str (txt "es256"))

/-- Two configurations, of which one has been given a signer. -/
def ofTwo : Session Bool (List Int) :=
  ((start ⟨⟨[], [], []⟩, [], [7, 9]⟩).step true (.useSigner (.varying (ascii "abcde")))).2

/-- A configuration for which a private key is missing keeps its signer and signs with it. -/
theorem signer_last_set_missing :
    ((run [(true, .useSigner (.varying (ascii "abcde"))), (true, .useKey missingFiles),
        (false, .signBytes [1])] (start ⟨⟨[], [], []⟩, [], [7, 9]⟩)).2.configs true).signer =
      .varying (ascii "abcde") ∧
    (∀ e ∈ (run [(true, .useKey missingFiles)] ofTwo).1, e.set?.isSome = false) ∧
    (ofTwo.step true (.signBytes [1])).2.configs true = ofTwo.configs true ∧
    (run [(true, .signBytes [1])] (ofTwo.step true (.useKey missingFiles)).2).1.map Event.outcome =
      (run [(true, .signBytes [1])] ofTwo).1.map Event.outcome := by
  obtain ⟨hlast, hsets, hkept, hfailed⟩ := @signer_last_set (List Int) Bool _
  refine ⟨?last, ?sets, ?kept, ?failed⟩
  case last =>
    rw [hlast]
    rfl
  case sets =>
    intro e he
    have hmem : e ∈ (run [(true, .useSigner (.varying (ascii "abcde"))),
        (true, .useKey missingFiles)] (start ⟨⟨[], [], []⟩, [], [7, 9]⟩)).1 :=
      List.mem_cons_of_mem _ he
    rw [hsets _ _ e hmem]
    obtain rfl := List.mem_singleton.1 he
    rfl
  case kept => exact hkept ofTwo true true (.signBytes [1]) (.inr rfl)
  case failed =>
    obtain ⟨lines, _, hrun⟩ := hfailed ofTwo _ true missingFiles _ rfl
    exact (hrun [(true, .signBytes [1])]).1

end Session

end ClaimSeal

import Mathlib.Data.List.Forall2
import ClaimSeal.Workers
import ClaimSeal.Proofs.Operation

/-!
**Requests that are made by turns.**

What is left to do of a request at any stage is itself an operation, and a turn does not change what
that operation gives.  So a request made alone gives what signing at once gives.

Requests made together share the backend, and what one of them is told depends on the turns before.
But each knows only what the signer told it: the reservation that it read at its first turn, and an
answer to its own claim.

Main definitions:

* `AsyncSigner.rest` — what is left to do of a request;
* `AsyncSigner.Follows` — what a request at some stage knows is what the signer answered;
* `AsyncSigner.Reads` — the reservation that a request reads.

Main results:

* `AsyncSigner.rest_turn`, `AsyncSigner.rest_runIn` — turns do not change what a request gives;
* `AsyncSigner.signClaim_of_runIn` — a request made alone gives what signing at once gives;
* `AsyncSigner.follows_turn`, `AsyncSigner.follows_runIn` — requests know what they were answered;
* `AsyncSigner.reads_of_done` — they know the reservation that was told at their first turns.
-/

set_option autoImplicit false

namespace ClaimSeal

open Run Operation

variable {σ : Type}

/-! ### One request -/

namespace AsyncSigner

/-- The caller of a signer that does not block classifies failures as any caller does. -/
theorem conclude_error (data : Bytes) (reserved : Int) (f : Failure) :
    conclude data reserved (.error f) = (throw f.toSigning : Operation σ Bytes) := by
  rw [conclude, Failure.toSigning]
  cases hs : f.isSigning with
  | true => rfl
  | false =>
      cases ho : f.isOrdinary with
      | true => rfl
      | false => rfl

/-- Both ways to sign have the same size check. -/
theorem signWithin_eq_conclude (sign : Bytes → Action σ Bytes) (data : Bytes) (reserved : Int) :
    signWithin sign data reserved =
      Operation.outcome (act (sign data)) >>= conclude data reserved := by
  rw [signWithin, signWithinUnder]
  congr 1
  funext answer
  cases answer with
  | error f => rw [conclude_error]
  | ok signature => rfl

/-- What is left to do of a request. -/
def rest (s : AsyncSigner σ) : Stage → Operation σ Bytes
  | .waiting data => s.signClaim data
  | .handedOver data reserved => signWithin s.sign data reserved
  | .answered data reserved answer => conclude data reserved answer
  | .done _ result => ofExcept id result

theorem rest_done (s : AsyncSigner σ) (reserved : Option Int) (result : Except Failure Bytes)
    (w : World σ) : s.rest (.done reserved result) w = (result, w) := by
  cases result <;> rfl

/-- A turn does not change what a request gives. -/
theorem rest_turn (s : AsyncSigner σ) (stage : Stage) (w : World σ) :
    s.rest (s.turn stage w).1 (s.turn stage w).2 = s.rest stage w := by
  cases stage with
  | waiting data =>
      rw [rest, signClaim_eq, bind_apply, turn]
      rcases act s.reserveSize w with ⟨answer, v⟩
      cases answer <;> rfl
  | handedOver data reserved =>
      rw [rest, signWithin_eq_conclude, bind_apply, outcome_apply, turn]
      rfl
  | answered data reserved answer => exact s.rest_done _ _ _
  | done reserved result => rfl

/-- A request made alone gives after any turns what it gives from the start. -/
theorem rest_runIn (s : AsyncSigner σ) (schedule : List Nat) (stage : Stage) (w : World σ) :
    ∃ stage' w', s.runIn schedule ⟨[stage], w⟩ = ⟨[stage'], w'⟩ ∧
      s.rest stage' w' = s.rest stage w := by
  induction schedule generalizing stage w with
  | nil => exact ⟨stage, w, rfl, rfl⟩
  | cons i schedule ih =>
      cases i with
      | zero =>
          obtain ⟨stage', w', hrun, hrest⟩ := ih (s.turn stage w).1 (s.turn stage w).2
          exact ⟨stage', w', hrun, hrest.trans (s.rest_turn stage w)⟩
      | succ i => exact ih stage w

/-- A request made alone that is done gives what signing at once gives. -/
theorem signClaim_of_runIn {s : AsyncSigner σ} {data : Bytes} {w w' : World σ}
    {schedule : List Nat} {reserved : Option Int} {result : Except Failure Bytes}
    (h : s.runIn schedule (.start [data] w) = ⟨[.done reserved result], w'⟩) :
    s.signClaim data w = (result, w') := by
  obtain ⟨stage, v, hrun, hrest⟩ := s.rest_runIn schedule (.waiting data) w
  obtain ⟨hstages, rfl⟩ := Gathering.mk.inj (h.symm.trans hrun)
  obtain ⟨rfl, _⟩ := List.cons.inj hstages
  rw [rest_done] at hrest
  exact hrest.symm

/-- A claim that was handed over is signed in two turns. -/
theorem turn_turn_handedOver (s : AsyncSigner σ) (data : Bytes) (reserved : Int) (w : World σ) :
    s.turn (s.turn (.handedOver data reserved) w).1 (s.turn (.handedOver data reserved) w).2 =
      (.done (some reserved) (signWithin s.sign data reserved w).1,
        (signWithin s.sign data reserved w).2) := by
  rw [signWithin_eq_conclude, bind_apply, outcome_apply]
  rfl

/-- After three turns a request made alone is done. -/
theorem runIn_alone (s : AsyncSigner σ) (data : Bytes) (w : World σ) :
    ∃ reserved, s.runIn [0, 0, 0] (.start [data] w) =
      ⟨[.done reserved (s.signClaim data w).1], (s.signClaim data w).2⟩ := by
  have hstage : ∃ reserved result w',
      s.runIn [0, 0, 0] (.start [data] w) = ⟨[.done reserved result], w'⟩ := by
    rcases hr : act s.reserveSize w with ⟨answer, v⟩
    have hturn : s.runIn [0, 0, 0] (.start [data] w) = s.runIn [0, 0]
        ⟨[(s.turn (.waiting data) w).1], (s.turn (.waiting data) w).2⟩ := rfl
    rw [hturn, turn, hr]
    cases answer with
    | error f => exact ⟨none, .error f, v, rfl⟩
    | ok reserved =>
        exact ⟨some reserved, _, _, rfl⟩
  obtain ⟨reserved, result, w', hrun⟩ := hstage
  rw [signClaim_of_runIn hrun]
  exact ⟨reserved, hrun⟩

/-! ### Requests made together -/

/-- What a request at some stage knows is its claim, or what the signer answered to it. -/
inductive Follows (s : AsyncSigner σ) (data : Bytes) : Stage → Prop
  | waiting : Follows s data (.waiting data)
  | handedOver (reserved : Int) : Follows s data (.handedOver data reserved)
  | answered (reserved : Int) (state : σ) :
      Follows s data (.answered data reserved (s.sign data state).1)
  | refused (f : Failure) : Follows s data (.done none (.error f))
  | concluded (reserved : Int) (state : σ) (w : World σ) : Follows s data
      (.done (some reserved) (conclude data reserved (s.sign data state).1 w).1)

/-- A turn keeps to what the signer answers. -/
theorem follows_turn {s : AsyncSigner σ} {data : Bytes} {stage : Stage}
    (h : s.Follows data stage) (w : World σ) : s.Follows data (s.turn stage w).1 := by
  cases h with
  | waiting =>
      rw [turn]
      rcases act s.reserveSize w with ⟨answer, v⟩
      cases answer with
      | error f => exact .refused f
      | ok reserved => exact .handedOver reserved
  | handedOver reserved => exact .answered reserved w.backend
  | answered reserved state => exact .concluded reserved state w
  | refused f => exact .refused f
  | concluded reserved state v => exact .concluded reserved state v

theorem forall₂_set {α β : Type} {R : α → β → Prop} {as : List α} {bs : List β} {a : α} {b : β}
    (h : List.Forall₂ R as bs) (i : Nat) (hab : R a b) :
    List.Forall₂ R (as.set i a) (bs.set i b) := by
  induction h generalizing i with
  | nil => exact .nil
  | cons hr h ih =>
      cases i with
      | zero => exact .cons hab h
      | succ i => exact .cons hr (ih i)

theorem forall₂_getElem? {α β : Type} {R : α → β → Prop} {as : List α} {bs : List β} {i : Nat}
    {b : β} (h : List.Forall₂ R as bs) (hb : bs[i]? = some b) : ∃ a, as[i]? = some a ∧ R a b := by
  induction h generalizing i with
  | nil => cases hb
  | cons hr h ih =>
      cases i with
      | zero =>
          cases hb
          exact ⟨_, rfl, hr⟩
      | succ i => exact ih hb

theorem set_of_getElem? {α : Type} {as : List α} {i : Nat} {a : α} (h : as[i]? = some a) :
    as.set i a = as := by
  obtain ⟨hi, rfl⟩ := List.getElem?_eq_some_iff.1 h
  exact List.set_getElem_self hi

theorem follows_turnAt {s : AsyncSigner σ} {claims : List Bytes} {g : Gathering σ}
    (h : List.Forall₂ s.Follows claims g.stages) (i : Nat) :
    List.Forall₂ s.Follows claims (s.turnAt g i).stages := by
  rw [turnAt]
  cases hi : g.stages[i]? with
  | none => exact h
  | some stage =>
      obtain ⟨data, hdata, hfollows⟩ := forall₂_getElem? h hi
      rw [← set_of_getElem? hdata]
      exact forall₂_set h i (follows_turn hfollows g.world)

/-- Requests know after any turns only what the signer told them. -/
theorem follows_runIn {s : AsyncSigner σ} {claims : List Bytes} {g : Gathering σ}
    (h : List.Forall₂ s.Follows claims g.stages) (schedule : List Nat) :
    List.Forall₂ s.Follows claims (s.runIn schedule g).stages := by
  induction schedule generalizing g with
  | nil => exact h
  | cons i schedule ih => exact ih (follows_turnAt h i)

theorem follows_start (s : AsyncSigner σ) (claims : List Bytes) (w : World σ) :
    List.Forall₂ s.Follows claims (Gathering.start claims w).stages := by
  rw [Gathering.start, List.forall₂_map_right_iff]
  exact List.forall₂_same.2 fun data _ => .waiting

theorem conclude_ok_fst (data signature : Bytes) (reserved : Int) (w : World σ) :
    (conclude data reserved (.ok signature) w).1 = checkSize signature reserved := by
  rw [conclude, bind_apply, log_apply]
  cases checkSize signature reserved <;> rfl

/-- A value is concluded from a signature that fits, and is that signature. -/
theorem conclude_eq_ok_iff {data signature : Bytes} {reserved : Int} {answer : Except Failure Bytes}
    {w : World σ} : (conclude data reserved answer w).1 = .ok signature ↔
      answer = .ok signature ∧ (signature.length : Int) ≤ reserved := by
  cases answer with
  | error f =>
      rw [conclude_error]
      constructor
      · intro h
        cases h
      · rintro ⟨h, _⟩
        cases h
  | ok answer =>
      rw [conclude_ok_fst, checkSize_eq_ok_iff, Except.ok.injEq]
      constructor
      · rintro ⟨hle, rfl⟩
        exact ⟨rfl, hle⟩
      · rintro ⟨rfl, hle⟩
        exact ⟨hle, rfl⟩

/-- A request that gave a signature was answered with it, and the signature fits. -/
theorem Follows.of_done {s : AsyncSigner σ} {data signature : Bytes} {reserved : Option Int}
    (h : s.Follows data (.done reserved (.ok signature))) :
    ∃ size state, reserved = some size ∧ (s.sign data state).1 = .ok signature ∧
      (signature.length : Int) ≤ size := by
  generalize hstage : Stage.done reserved (.ok signature) = stage at h
  cases h with
  | concluded size state w =>
      obtain ⟨rfl, hresult⟩ := Stage.done.inj hstage
      obtain ⟨hsign, hle⟩ := conclude_eq_ok_iff.1 hresult.symm
      exact ⟨size, state, rfl, hsign, hle⟩
  | refused f => cases hstage
  | waiting => cases hstage
  | handedOver reserved => cases hstage
  | answered reserved state => cases hstage

theorem turnAt_of_none {s : AsyncSigner σ} {g : Gathering σ} {i : Nat}
    (h : g.stages[i]? = none) : s.turnAt g i = g := by
  rw [turnAt, h]

theorem turnAt_of_some {s : AsyncSigner σ} {g : Gathering σ} {i : Nat} {stage : Stage}
    (h : g.stages[i]? = some stage) : s.turnAt g i =
      ⟨g.stages.set i (s.turn stage g.world).1, (s.turn stage g.world).2⟩ := by
  rw [turnAt, h]

/-- A turn of another request leaves a request where it is. -/
theorem turnAt_stages_of_ne {s : AsyncSigner σ} (g : Gathering σ) {i j : Nat} (h : j ≠ i) :
    (s.turnAt g j).stages[i]? = g.stages[i]? := by
  rw [turnAt]
  cases g.stages[j]? with
  | none => rfl
  | some stage => exact List.getElem?_set_ne h

theorem turnAt_stages_self {s : AsyncSigner σ} {g : Gathering σ} {i : Nat} {stage : Stage}
    (h : g.stages[i]? = some stage) :
    (s.turnAt g i).stages[i]? = some (s.turn stage g.world).1 := by
  rw [turnAt_of_some h]
  exact List.getElem?_set_self (List.getElem?_eq_some_iff.1 h).1

/-! ### The reservation of a request -/

/-- What a request knows about its reservation, once it has tried to read it. -/
def Stage.reserved? : Stage → Option (Option Int)
  | .waiting _ => none
  | .handedOver _ reserved => some (some reserved)
  | .answered _ reserved _ => some (some reserved)
  | .done reserved _ => some reserved

theorem reserved?_turn {s : AsyncSigner σ} {stage : Stage} {reserved : Option Int}
    (h : stage.reserved? = some reserved) (w : World σ) :
    (s.turn stage w).1.reserved? = some reserved := by
  cases stage with
  | waiting data => cases h
  | handedOver data size => exact h
  | answered data size answer => exact h
  | done size result => exact h

/-- A request reads its reservation once. -/
theorem reserved?_runIn {s : AsyncSigner σ} {g : Gathering σ} {i : Nat} {stage : Stage}
    {reserved : Option Int} (schedule : List Nat) (hi : g.stages[i]? = some stage)
    (h : stage.reserved? = some reserved) :
    ∃ stage', (s.runIn schedule g).stages[i]? = some stage' ∧ stage'.reserved? = some reserved := by
  induction schedule generalizing g stage with
  | nil => exact ⟨stage, hi, h⟩
  | cons j schedule ih =>
      by_cases hj : j = i
      · obtain rfl := hj
        exact ih (turnAt_stages_self hi) (reserved?_turn h g.world)
      · exact ih ((turnAt_stages_of_ne g hj).trans hi) h

/-- The reservation that a request reads: the one that is told at its first turn. -/
def Reads (s : AsyncSigner σ) (schedule : List Nat) (g : Gathering σ) (i : Nat) (reserved : Int) :
    Prop :=
  ∃ before after, schedule = before ++ i :: after ∧ i ∉ before ∧
    (s.reserveSize (s.runIn before g).world.backend).1 = .ok reserved

/-- A request that is done knows the reservation that was told at its first turn. -/
theorem reads_of_done {s : AsyncSigner σ} {schedule : List Nat} {g : Gathering σ} {i : Nat}
    {data : Bytes} {reserved : Int} {result : Except Failure Bytes}
    (hi : g.stages[i]? = some (.waiting data))
    (h : (s.runIn schedule g).stages[i]? = some (.done (some reserved) result)) :
    s.Reads schedule g i reserved := by
  induction schedule generalizing g with
  | nil =>
      obtain hstage : Stage.waiting data = .done (some reserved) result :=
        Option.some.inj (hi.symm.trans h)
      cases hstage
  | cons j schedule ih =>
      by_cases hj : j = i
      · obtain rfl := hj
        refine ⟨[], schedule, rfl, List.not_mem_nil, ?_⟩
        have hturn : (s.turnAt g j).stages[j]? = some (s.turn (.waiting data) g.world).1 :=
          turnAt_stages_self hi
        rw [turn, act] at hturn
        show (s.reserveSize g.world.backend).1 = .ok reserved
        rcases hr : s.reserveSize g.world.backend with ⟨answer, b⟩
        rw [hr] at hturn
        cases answer with
        | error f =>
            obtain ⟨stage, hstage, hreserved⟩ := reserved?_runIn schedule hturn rfl
            obtain rfl := Option.some.inj (hstage.symm.trans h)
            cases hreserved
        | ok size =>
            obtain ⟨stage, hstage, hreserved⟩ := reserved?_runIn schedule hturn rfl
            obtain rfl := Option.some.inj (hstage.symm.trans h)
            cases hreserved
            rfl
      · obtain ⟨before, after, rfl, hbefore, hr⟩ := ih ((turnAt_stages_of_ne g hj).trans hi) h
        refine ⟨j :: before, after, rfl, ?_, hr⟩
        rw [List.mem_cons, not_or]
        exact ⟨fun hij => hj hij.symm, hbefore⟩

end AsyncSigner

end ClaimSeal

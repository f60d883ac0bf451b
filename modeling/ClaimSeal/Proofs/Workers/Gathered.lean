import ClaimSeal.Proofs.Workers.Turns

/-!
**What is gathered was made by turns.**

Several claims that are signed together are signed in two passes: all reservations are read, and
then the signatures are made in some order.  That is one way to take turns, with one turn for each
request and then two turns, one right after the other, for each in the order of the signatures.

Main definitions:

* `AsyncSigner.Matches` — how requests that are gathered correspond to stages;
* `AsyncSigner.DoneAt` — a request is done.

Main results:

* `AsyncSigner.matches_start`, `AsyncSigner.matches_finish` — the turns of one request;
* `AsyncSigner.exists_runIn_of_starts`, `AsyncSigner.exists_runIn_of_finishAt` — the two passes;
* `AsyncSigner.exists_runIn_of_gatherIn` — **what is gathered was made by turns**.
-/

set_option autoImplicit false

namespace ClaimSeal

open Run Operation

variable {σ : Type}

namespace AsyncSigner

/-! ### The turns of one request -/

/-- A request that is gathered is at a stage: it was handed over if it waits, and done if it is. -/
inductive Matches : Request → Stage → Prop
  | waiting (data : Bytes) (reserved : Int) :
      Matches (.waiting data reserved) (.handedOver data reserved)
  | done (reserved : Option Int) (result : Except Failure Bytes) :
      Matches (.done result) (.done reserved result)

/-- A request is started by its first turn. -/
theorem matches_start {s : AsyncSigner σ} {data : Bytes} {r : Request} {w w' : World σ}
    (h : s.start data w = (.ok r, w')) :
    Matches r (s.turn (.waiting data) w).1 ∧ w' = (s.turn (.waiting data) w).2 := by
  rw [start, bind_apply, outcome_apply] at h
  rw [turn]
  rcases hr : act s.reserveSize w with ⟨answer, v⟩
  rw [hr] at h
  cases answer with
  | error f =>
      cases hf : f.stopsAll with
      | true =>
          simp only [hf, if_true] at h
          exact absurd h throw_ne_ok
      | false =>
          simp only [hf] at h
          obtain ⟨rfl, rfl⟩ := pure_eq_ok_iff.1 h
          exact ⟨.done none _, rfl⟩
  | ok reserved =>
      obtain ⟨rfl, rfl⟩ := pure_eq_ok_iff.1 h
      exact ⟨.waiting data reserved, rfl⟩

/-- A request in a worker is finished by two turns more. -/
theorem matches_finish {s : AsyncSigner σ} (hs : s.inWorker = true) {r : Request} {stage : Stage}
    {result : Except Failure Bytes} {w w' : World σ} (hmatch : Matches r stage)
    (h : s.finish r w = (.ok result, w')) :
    Matches (.done result) (s.turn (s.turn stage w).1 (s.turn stage w).2).1 ∧
      w' = (s.turn (s.turn stage w).1 (s.turn stage w).2).2 := by
  cases hmatch with
  | done reserved result =>
      obtain ⟨rfl, rfl⟩ := pure_eq_ok_iff.1 h
      exact ⟨.done reserved result, rfl⟩
  | waiting data reserved =>
      rw [turn_turn_handedOver]
      rw [finish, bind_apply, outcome_apply] at h
      rcases hrun : signWithin s.sign data reserved w with ⟨answer, v⟩
      rw [hrun] at h
      cases answer with
      | error f =>
          -- an interruption does not get out of a worker
          simp only [hs, Bool.not_true, Bool.and_false] at h
          obtain ⟨rfl, rfl⟩ := pure_eq_ok_iff.1 h
          exact ⟨.done _ _, rfl⟩
      | ok signature =>
          obtain ⟨rfl, rfl⟩ := pure_eq_ok_iff.1 h
          exact ⟨.done _ _, rfl⟩

/-- Two turns of one request, one right after the other. -/
theorem turnAt_turnAt {s : AsyncSigner σ} {stages : List Stage} {w : World σ} {i : Nat}
    {stage : Stage} (h : stages[i]? = some stage) :
    s.turnAt (s.turnAt ⟨stages, w⟩ i) i =
      ⟨stages.set i (s.turn (s.turn stage w).1 (s.turn stage w).2).1,
        (s.turn (s.turn stage w).1 (s.turn stage w).2).2⟩ := by
  obtain ⟨hi, _⟩ := List.getElem?_eq_some_iff.1 h
  have hfirst : s.turnAt ⟨stages, w⟩ i = ⟨stages.set i (s.turn stage w).1, (s.turn stage w).2⟩ :=
    turnAt_of_some h
  rw [hfirst, turnAt_of_some (List.getElem?_set_self hi), List.set_set]

/-! ### The two passes -/

/-- All requests are started by one turn each; `front` holds the stages of those before. -/
theorem exists_runIn_of_starts {s : AsyncSigner σ} {claims : List Bytes} {requests : List Request}
    {w w' : World σ} (front : List Stage) (h : claims.mapM s.start w = (.ok requests, w')) :
    ∃ stages, s.runIn (List.range' front.length claims.length) ⟨front ++ claims.map .waiting, w⟩ =
      ⟨front ++ stages, w'⟩ ∧ List.Forall₂ Matches requests stages := by
  induction claims generalizing front w requests with
  | nil =>
      obtain ⟨rfl, rfl⟩ := pure_eq_ok_iff.1 h
      exact ⟨[], rfl, .nil⟩
  | cons data claims ih =>
      rw [List.mapM_cons, bind_eq_ok_iff] at h
      obtain ⟨r, v, hstart, h⟩ := h
      obtain ⟨others, u, hothers, h⟩ := bind_eq_ok_iff.1 h
      obtain ⟨rfl, rfl⟩ := pure_eq_ok_iff.1 h
      obtain ⟨hmatch, rfl⟩ := matches_start hstart
      obtain ⟨stages, hrun, hmatches⟩ := ih (front ++ [(s.turn (.waiting data) w).1]) hothers
      refine ⟨(s.turn (.waiting data) w).1 :: stages, ?_, .cons hmatch hmatches⟩
      have hfirst : s.turnAt ⟨front ++ (data :: claims).map .waiting, w⟩ front.length =
          ⟨front ++ [(s.turn (.waiting data) w).1] ++ claims.map .waiting,
            (s.turn (.waiting data) w).2⟩ := by
        have hget : (front ++ (data :: claims).map Stage.waiting)[front.length]? =
            some (.waiting data) := by simp
        rw [turnAt_of_some hget]
        simp
      rw [List.append_cons front, ← hrun, List.length_cons, List.range'_succ, runIn,
        List.foldl_cons, hfirst, List.length_append]
      rfl

/-- Requests that were started are finished by two turns each. -/
theorem exists_runIn_of_finishAt {s : AsyncSigner σ} (hs : s.inWorker = true) {order : List Nat}
    {requests requests' : List Request} {stages : List Stage} {w w' : World σ}
    (hmatches : List.Forall₂ Matches requests stages)
    (h : s.finishAt order requests w = (.ok requests', w')) :
    ∃ stages', s.runIn (order.flatMap fun i => [i, i]) ⟨stages, w⟩ = ⟨stages', w'⟩ ∧
      List.Forall₂ Matches requests' stages' := by
  induction order generalizing requests stages w with
  | nil =>
      obtain ⟨rfl, rfl⟩ := pure_eq_ok_iff.1 h
      exact ⟨stages, rfl, hmatches⟩
  | cons i order ih =>
      rw [finishAt] at h
      cases hi : stages[i]? with
      | none =>
          have hnone : requests[i]? = none := by
            rw [List.getElem?_eq_none_iff] at hi ⊢
            rw [hmatches.length_eq]
            exact hi
          rw [hnone] at h
          obtain ⟨stages', hrun, hmatches'⟩ := ih hmatches h
          refine ⟨stages', ?_, hmatches'⟩
          rw [← hrun, List.flatMap_cons, runIn, List.foldl_append, List.foldl_cons,
            turnAt_of_none hi, List.foldl_cons, turnAt_of_none hi]
          rfl
      | some stage =>
          obtain ⟨r, hr, hmatch⟩ := forall₂_getElem? hmatches hi
          simp only [hr] at h
          obtain ⟨result, v, hfinish, h⟩ := bind_eq_ok_iff.1 h
          obtain ⟨hdone, rfl⟩ := matches_finish hs hmatch hfinish
          obtain ⟨stages', hrun, hmatches'⟩ := ih (forall₂_set hmatches i hdone) h
          refine ⟨stages', ?_, hmatches'⟩
          rw [← hrun, List.flatMap_cons, runIn, List.foldl_append, List.foldl_cons,
            List.foldl_cons, turnAt_turnAt hi]
          rfl

/-- The request at a place is done, if there is one. -/
def DoneAt (requests : List Request) (i : Nat) : Prop :=
  ∀ r, requests[i]? = some r → ∃ result, r = .done result

theorem DoneAt.set {requests : List Request} {i j : Nat} {result : Except Failure Bytes}
    (h : i = j ∨ DoneAt requests i) : DoneAt (requests.set j (.done result)) i := by
  intro r hr
  rw [List.getElem?_set] at hr
  by_cases hij : j = i
  · rw [if_pos hij] at hr
    split at hr
    · exact ⟨result, (Option.some.inj hr).symm⟩
    · cases hr
  · rw [if_neg hij] at hr
    rcases h with h | h
    · exact absurd h.symm hij
    · exact h r hr

/-- Requests are done after they were finished, and stay so. -/
theorem doneAt_of_finishAt {s : AsyncSigner σ} {order : List Nat}
    {requests requests' : List Request} {w w' : World σ} {i : Nat}
    (h : s.finishAt order requests w = (.ok requests', w')) (hi : i ∈ order ∨ DoneAt requests i) :
    DoneAt requests' i := by
  induction order generalizing requests w with
  | nil =>
      obtain ⟨rfl, rfl⟩ := pure_eq_ok_iff.1 h
      exact hi.resolve_left List.not_mem_nil
  | cons j order ih =>
      rw [finishAt] at h
      cases hj : requests[j]? with
      | none =>
          simp only [hj] at h
          refine ih h ?_
          rcases hi with hi | hi
          · rcases List.mem_cons.1 hi with rfl | hi
            · refine .inr ?_
              intro r hr
              rw [hj] at hr
              cases hr
            · exact .inl hi
          · exact .inr hi
      | some r =>
          simp only [hj] at h
          obtain ⟨result, v, _, h⟩ := bind_eq_ok_iff.1 h
          refine ih h ?_
          rcases hi with hi | hi
          · rcases List.mem_cons.1 hi with rfl | hi
            · exact .inr (DoneAt.set (.inl rfl))
            · exact .inl hi
          · exact .inr (DoneAt.set (.inr hi))

/-- Requests that are done and gave values are at stages that say so. -/
theorem exists_answers {s : AsyncSigner σ} {claims signatures : List Bytes}
    {requests : List Request} {stages : List Stage}
    (hfollows : List.Forall₂ s.Follows claims stages)
    (hmatches : List.Forall₂ Matches requests stages)
    (hdone : ∀ r ∈ requests, ∃ result, r = .done result)
    (h : requests.mapM Request.result = .ok signatures) :
    ∃ answers : List (Int × Bytes), signatures = answers.map Prod.snd ∧
      stages = answers.map fun a => .done (some a.1) (.ok a.2) := by
  induction hmatches generalizing claims signatures with
  | nil =>
      cases h
      exact ⟨[], rfl, rfl⟩
  | @cons r stage requests stages hmatch hmatches ih =>
      obtain ⟨data, claims, hfollow, hrest, rfl⟩ := List.forall₂_cons_right_iff.1 hfollows
      rw [List.mapM_cons] at h
      obtain ⟨signature, hsignature, h⟩ := Outcome.bind_eq_ok_iff.1 h
      obtain ⟨others, hothers, h⟩ := Outcome.bind_eq_ok_iff.1 h
      cases h
      obtain ⟨answers, rfl, rfl⟩ :=
        ih hrest (fun r hr => hdone r (List.mem_cons_of_mem _ hr)) hothers
      obtain ⟨result, rfl⟩ := hdone r List.mem_cons_self
      cases hmatch with
      | done reserved result =>
          obtain rfl : result = .ok signature := hsignature
          obtain ⟨size, _, rfl, _⟩ := hfollow.of_done
          exact ⟨(size, signature) :: answers, rfl, rfl⟩

/-- What is gathered was made by turns: one for each request in the order of the claims, and then
two for each in the order in which the signatures were made. -/
theorem exists_runIn_of_gatherIn {s : AsyncSigner σ} (hs : s.inWorker = true) {order : List Nat}
    {claims signatures : List Bytes} {w w' : World σ}
    (horder : ∀ i, i < claims.length → i ∈ order)
    (h : s.gatherIn order claims w = (.ok signatures, w')) :
    ∃ answers g, s.runIn (List.range claims.length ++ order.flatMap fun i => [i, i])
      (.start claims w) = g ∧ g.Gave answers ∧ g.world = w' ∧
      signatures = answers.map Prod.snd := by
  obtain ⟨started, v, hstarted, h⟩ := bind_eq_ok_iff.1 h
  obtain ⟨finished, u, hfinished, h⟩ := bind_eq_ok_iff.1 h
  -- a value is given only if nothing has failed
  cases hfirst : firstFailure? started <|> firstFailure? finished with
  | some f =>
      simp only [hfirst] at h
      exact absurd h throw_ne_ok
  | none =>
      simp only [hfirst] at h
      obtain ⟨hresults, rfl⟩ := ofExcept_eq_ok_iff.1 h
      obtain ⟨stages, hstart, hmatches⟩ := exists_runIn_of_starts [] hstarted
      obtain ⟨stages', hfinish, hmatches'⟩ := exists_runIn_of_finishAt hs hmatches hfinished
      have hrun : s.runIn (List.range claims.length ++ order.flatMap fun i => [i, i])
          (.start claims w) = ⟨stages', u⟩ := by
        rw [runIn, List.foldl_append, List.range_eq_range', ← hfinish]
        exact congrArg (s.runIn _) hstart
      have hfollows : List.Forall₂ s.Follows claims stages' := by
        have hall := follows_runIn (s.follows_start claims w)
          (List.range claims.length ++ order.flatMap fun i => [i, i])
        rw [hrun] at hall
        exact hall
      have hdone : ∀ r ∈ finished, ∃ result, r = .done result := by
        intro r hr
        obtain ⟨i, hi, rfl⟩ := List.mem_iff_getElem.1 hr
        have hlength : finished.length = claims.length :=
          hmatches'.length_eq.trans hfollows.length_eq.symm
        rw [hlength] at hi
        exact doneAt_of_finishAt hfinished (.inl (horder i hi)) _ (List.getElem?_eq_getElem _)
      obtain ⟨answers, hsignatures, hanswers⟩ :=
        exists_answers hfollows hmatches' hdone hresults
      exact ⟨answers, _, hrun, hanswers, rfl, hsignatures⟩

end AsyncSigner

end ClaimSeal

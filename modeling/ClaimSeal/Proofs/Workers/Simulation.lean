import ClaimSeal.Proofs.CheckedSigning
import ClaimSeal.Proofs.SizeCheck
import ClaimSeal.Proofs.Workers.Delivery
import ClaimSeal.Proofs.Workers.Gathered

/-!
**Signing in a worker simulates signing at once.**

A request made alone leaves the log, the backend and the calls as signing at once does.  It gives
the same signature, or a failure that looks the same unless the worker's future does not hand it on
as it is.  Requests made together may be told other reservations than they would be told alone, and
the states in which they sign depend on the order of the turns.  If signatures depend on the claim
only, that order makes no difference to them: each request gives the signature that signing one
claim after the other gives, checked against the reservation that was read for it.

Main definitions:

* `Recording` — an operation does what another one does, and records calls;
* `Signer.delivering` — a signer whose failures come out of a worker.

Main results:

* `Signer.alike_threaded_iff` — when signing in a worker looks the same as signing at once;
* `Signer.recording_signClaimUnder`, `Signer.recording_threaded` — recording the calls changes
  nothing else about signing;
* `Signer.signClaim_fst`, `Signer.signatures_of_mapM` — signatures that depend on the claim only;
* `Signer.threaded_simulates` — **signing in a worker simulates signing at once**;
* `Signer.not_forall_alike_threaded` — but not every failure looks the same.
-/

set_option autoImplicit false

namespace ClaimSeal

open Run Operation

variable {σ : Type}

/-! ### Recorded calls -/

/-- An operation does what another one does, and records calls. -/
def Recording {α : Type} (o' : Operation (σ × List Call) α) (o : Operation σ α) : Prop :=
  ∀ w, (o' w).1 = (o w.unrecorded).1 ∧ (o' w).2.unrecorded = (o w.unrecorded).2

namespace Recording

variable {α β : Type}

theorem bind {o' : Operation (σ × List Call) α} {o : Operation σ α}
    {f' : α → Operation (σ × List Call) β} {f : α → Operation σ β}
    (h : Recording o' o) (hf : ∀ a, Recording (f' a) (f a)) : Recording (o' >>= f') (o >>= f) := by
  intro w
  obtain ⟨hresult, hworld⟩ := h w
  rw [bind_apply, bind_apply]
  rcases hrun : o' w with ⟨r, v⟩
  rw [hrun] at hresult hworld
  rcases ho : o w.unrecorded with ⟨r', v'⟩
  rw [ho] at hresult hworld
  obtain rfl : r = r' := hresult
  obtain rfl : v.unrecorded = v' := hworld
  cases r with
  | ok a => exact hf a v
  | error f => exact ⟨rfl, rfl⟩

theorem act (call : Call) (a : Action σ α) :
    Recording (Operation.act (call.record a)) (Operation.act a) := by
  intro w
  exact ⟨rfl, rfl⟩

theorem delivered (call : Call) (a : Action σ α) :
    Recording (Operation.act (Action.delivered (call.record a)))
      (Operation.act (Action.delivered a)) := by
  intro w
  exact ⟨rfl, rfl⟩

theorem outcome {o' : Operation (σ × List Call) α} {o : Operation σ α} (h : Recording o' o) :
    Recording (Operation.outcome o') (Operation.outcome o) := by
  intro w
  obtain ⟨hresult, hworld⟩ := h w
  rw [outcome_apply, outcome_apply, hresult, hworld]
  exact ⟨rfl, rfl⟩

theorem ofExcept {ε : Type} (failure : ε → Failure) (r : Except ε α) :
    Recording (Operation.ofExcept failure r : Operation (σ × List Call) α)
      (Operation.ofExcept failure r) := by
  intro w
  cases r <;> exact ⟨rfl, rfl⟩

theorem log (level : Level) (text : Text) :
    Recording (Operation.log level text : Operation (σ × List Call) Unit)
      (Operation.log level text) := by
  intro w
  exact ⟨rfl, rfl⟩

/-- Signing with the size check does what it does if asking for the signature does. -/
theorem signWithinUnder {sign' : Bytes → Action (σ × List Call) Bytes}
    {sign : Bytes → Action σ Bytes} {data : Bytes}
    (h : Recording (Operation.act (sign' data)) (Operation.act (sign data))) (limit : DigitLimit)
    (reserved : Int) :
    Recording (ClaimSeal.signWithinUnder limit sign' data reserved)
      (ClaimSeal.signWithinUnder limit sign data reserved) := by
  refine .bind (.outcome h) ?_
  intro answer
  cases answer with
  | error f => exact fun w => ⟨rfl, rfl⟩
  | ok signature => exact .bind (.ofExcept _ _) fun _ => .bind (.log _ _) fun _ => .ofExcept _ _

end Recording

theorem Signer.recording_threaded (limit : DigitLimit) (s : Signer σ) (data : Bytes) :
    Recording (s.recorded.threaded.signClaimUnder limit data)
      (s.threaded.signClaimUnder limit data) :=
  .bind (.act _ _) fun reserved => .signWithinUnder (.delivered _ _) limit reserved

/-! ### One request -/

/-- A signer whose failures come out of a worker. -/
def Signer.delivering (s : Signer σ) : Signer σ :=
  { s with sign := fun data => Action.delivered (s.sign data) }

theorem Signer.Tells.delivering {s : Signer σ} {data : Bytes} {b b' : σ} {reserved : Int}
    {answer : Except Failure Bytes} (h : s.Tells data b reserved answer b') :
    s.delivering.Tells data b reserved (answer.mapError Failure.delivered) b' := by
  obtain ⟨b₁, hreserve, hsign⟩ := h
  refine ⟨b₁, hreserve, ?_⟩
  cases answer with
  | error f => exact Action.delivered_of_error hsign
  | ok signature => exact Action.delivered_of_ok hsign

/-- What a signer tells is determined by its state. -/
theorem Signer.Tells.unique {s : Signer σ} {data : Bytes} {b b₁ b₂ : σ} {reserved₁ reserved₂ : Int}
    {answer₁ answer₂ : Except Failure Bytes} (h₁ : s.Tells data b reserved₁ answer₁ b₁)
    (h₂ : s.Tells data b reserved₂ answer₂ b₂) : answer₁ = answer₂ := by
  obtain ⟨c₁, hreserve₁, hsign₁⟩ := h₁
  obtain ⟨c₂, hreserve₂, hsign₂⟩ := h₂
  obtain ⟨_, rfl⟩ := ok_eq_ok_iff.1 (hreserve₁.symm.trans hreserve₂)
  exact congrArg Prod.fst (hsign₁.symm.trans hsign₂)

/-- What a worker fails with is handed on before it becomes a failure to sign. -/
theorem Signer.signClaimUnder_threaded_of_error {s : Signer σ} {data : Bytes} {w : World σ}
    {reserved : Int} {f : Failure} {b : σ} (limit : DigitLimit)
    (h : s.Tells data w.backend reserved (.error f) b) :
    s.threaded.signClaimUnder limit data w =
      (.error f.delivered.toSigning, { w with backend := b }) :=
  signClaimUnder_of_error limit h.delivering

/-- If a worker does not fail, signing there is signing at once. -/
theorem Signer.signClaimUnder_threaded_of_ok {s : Signer σ} {data signature : Bytes} {w : World σ}
    {reserved : Int} {b : σ} (limit : DigitLimit)
    (h : s.Tells data w.backend reserved (.ok signature) b) :
    s.threaded.signClaimUnder limit data w = s.signClaimUnder limit data w := by
  have hthreaded : s.threaded.signClaimUnder limit data w =
      s.delivering.signClaimUnder limit data w := rfl
  cases hlimit : limit.admits reserved with
  | true =>
      rw [hthreaded, signClaimUnder_of_tells hlimit h, signClaimUnder_of_tells hlimit h.delivering]
      rfl
  | false =>
      rw [hthreaded, signClaimUnder_of_not_admits hlimit h,
        signClaimUnder_of_not_admits hlimit h.delivering]

/-- Signing in a worker looks the same as signing at once unless the signer fails with what the
worker's future does not hand on as it is. -/
theorem Signer.alike_threaded_iff (limit : DigitLimit) (s : Signer σ) (data : Bytes) (w : World σ) :
    Outcome.Alike (s.threaded.signClaimUnder limit data w).1 (s.signClaimUnder limit data w).1 ↔
      ∀ reserved f b, s.Tells data w.backend reserved (.error f) b → ¬ f.IsAltered := by
  rcases hreserve : s.reserveSize w.backend with ⟨f | reserved, b₁⟩
  · -- a failure to tell the reservation comes before the worker
    have hthreaded : s.delivering.reserveSize w.backend = (.error f, b₁) := hreserve
    have hsame : s.threaded.signClaimUnder limit data w = (.error f, { w with backend := b₁ }) :=
      signClaimUnder_of_unreserved limit data hthreaded
    rw [hsame, signClaimUnder_of_unreserved limit data hreserve]
    refine iff_of_true (.error (.refl f)) ?_
    rintro reserved f' b ⟨_, htold, _⟩
    exact absurd (hreserve.symm.trans htold) error_ne_ok
  · rcases hsign : s.sign data b₁ with ⟨f | signature, b⟩
    · have htells : s.Tells data w.backend reserved (.error f) b := ⟨b₁, hreserve, hsign⟩
      rw [signClaimUnder_threaded_of_error limit htells, signClaimUnder_of_error limit htells]
      constructor
      · intro halike reserved' f' b' htells'
        obtain rfl := Except.error.inj (htells.unique htells')
        cases halike with
        | error h => exact Failure.alike_delivered_iff.1 h
      · intro h
        exact .error (Failure.alike_delivered_iff.2 (h reserved f b htells))
    · have htells : s.Tells data w.backend reserved (.ok signature) b := ⟨b₁, hreserve, hsign⟩
      rw [signClaimUnder_threaded_of_ok limit htells]
      refine iff_of_true (.refl _) ?_
      intro reserved' f' b' htells'
      cases htells.unique htells'

/-! ### Signatures that depend on the claim only -/

theorem signWithin_fst {sign : Bytes → Action σ Bytes} {data signature : Bytes} {w : World σ}
    (h : (sign data w.backend).1 = .ok signature) (reserved : Int) :
    (signWithin sign data reserved w).1 = checkSize signature reserved := by
  rw [signWithin_of_signature (Prod.ext h rfl)]

/-- If a claim has one signature only, signing it gives that, checked against the reservation. -/
theorem Signer.signClaim_fst {s : Signer σ} {data signature : Bytes}
    (h : ∀ b, (s.sign data b).1 = .ok signature) (w : World σ) :
    (s.signClaim data w).1 = (s.reserveSize w.backend).1 >>= checkSize signature := by
  rw [signClaim_eq, bind_apply, act]
  rcases s.reserveSize w.backend with ⟨answer, b⟩
  cases answer with
  | error f => rfl
  | ok reserved => exact signWithin_fst (h b) reserved

/-- Signing one claim after the other gives the signatures of the claims. -/
theorem Signer.signatures_of_mapM {s : Signer σ} {f : Bytes → Except Failure Bytes}
    (hf : ∀ data b, (s.sign data b).1 = f data) {claims signatures : List Bytes} {w w' : World σ}
    (h : claims.mapM s.signClaim w = (.ok signatures, w')) :
    List.Forall₂ (fun data signature => f data = .ok signature) claims signatures := by
  induction claims generalizing signatures w with
  | nil =>
      obtain ⟨rfl, rfl⟩ := pure_eq_ok_iff.1 h
      exact .nil
  | cons data claims ih =>
      rw [List.mapM_cons, bind_eq_ok_iff] at h
      obtain ⟨signature, v, hsign, h⟩ := h
      obtain ⟨others, u, hothers, h⟩ := bind_eq_ok_iff.1 h
      obtain ⟨rfl, rfl⟩ := pure_eq_ok_iff.1 h
      obtain ⟨_, b, b', _, hb, _⟩ := signClaim_eq_ok_iff.1 hsign
      refine .cons ?_ (ih hothers)
      rw [← hf data b, hb]

/-- What was made together is what the requests made alone give. -/
theorem AsyncSigner.agree_of_gave {s : Signer σ} {f : Bytes → Except Failure Bytes}
    (hf : ∀ data b, (s.sign data b).1 = f data) {claims : List Bytes} {w : World σ}
    {schedule : List Nat} {answers : List (Int × Bytes)}
    (h : (s.threaded.runIn schedule (.start claims w)).Gave answers) :
    List.Forall₂ (fun data (answer : Int × Bytes) =>
      f data = .ok answer.2 ∧ (answer.2.length : Int) ≤ answer.1) claims answers := by
  have hfollows := follows_runIn (s.threaded.follows_start claims w) schedule
  rw [h, List.forall₂_map_right_iff] at hfollows
  refine hfollows.imp ?_
  rintro data ⟨reserved, signature⟩ hfollow
  obtain ⟨size, state, hsize, hsign, hle⟩ := hfollow.of_done
  obtain rfl := Option.some.inj hsize
  have hsigned : (s.sign data state).1 = .ok signature :=
    congrArg Prod.fst (Action.delivered_eq_ok_iff.1 (Prod.ext hsign rfl))
  exact ⟨(hf data state).symm.trans hsigned, hle⟩

/-- **Signing in a worker simulates signing at once.**  A request made alone leaves all as signing
at once does from the same state: the log, the backend and the calls of the signer's methods.  It
gives the same, unless the signer fails with what a worker's future does not hand on as it is.  The
turns that it takes give what it gives at once.  If signatures depend on the claim only and requests
made together give values, then each gives the signature that signing its claim at once gives
whenever it fits, and that signature fits into the reservation that was told at the request's first
turn.  What is gathered is made by such turns. -/
theorem Signer.threaded_simulates (s : Signer σ) :
    (∀ limit data w,
      (s.threaded.signClaimUnder limit data w).2 = (s.signClaimUnder limit data w).2 ∧
      (Outcome.Alike (s.threaded.signClaimUnder limit data w).1
          (s.signClaimUnder limit data w).1 ↔
        ∀ reserved f b, s.Tells data w.backend reserved (.error f) b → ¬ f.IsAltered)) ∧
    (∀ data w,
      (∀ schedule reserved result w',
        s.threaded.runIn schedule (.start [data] w) = ⟨[.done reserved result], w'⟩ →
          s.threaded.signClaim data w = (result, w')) ∧
      ∃ reserved, s.threaded.runIn [0, 0, 0] (.start [data] w) =
        ⟨[.done reserved (s.threaded.signClaim data w).1], (s.threaded.signClaim data w).2⟩) ∧
    (∀ data w schedule reserved result w',
      s.recorded.threaded.runIn schedule (.start [data] w) = ⟨[.done reserved result], w'⟩ →
        (s.recorded.signClaim data w).2 = w' ∧
        s.threaded.signClaim data w.unrecorded = (result, w'.unrecorded)) ∧
    (∀ f : Bytes → Except Failure Bytes, (∀ data b, (s.sign data b).1 = f data) →
      ∀ claims w schedule answers,
        (s.threaded.runIn schedule (.start claims w)).Gave answers →
          answers.length = claims.length ∧
          (∀ i data reserved signature,
            claims[i]? = some data → answers[i]? = some (reserved, signature) →
              s.threaded.Reads schedule (.start claims w) i reserved ∧
              (signature.length : Int) ≤ reserved ∧
              ∀ v, (s.signClaim data v).1 =
                (s.reserveSize v.backend).1 >>= checkSize signature) ∧
          ∀ v signatures v', claims.mapM s.signClaim v = (.ok signatures, v') →
            signatures = answers.map Prod.snd) ∧
    ∀ order claims w signatures w', (∀ i, i < claims.length → i ∈ order) →
      s.threaded.gatherIn order claims w = (.ok signatures, w') →
        ∃ schedule answers, (s.threaded.runIn schedule (.start claims w)).Gave answers ∧
          (s.threaded.runIn schedule (.start claims w)).world = w' ∧
          signatures = answers.map Prod.snd := by
  refine ⟨?alone, ?turns, ?recorded, ?together, ?gathered⟩
  case alone =>
    intro limit data w
    exact ⟨s.signClaimUnder_threaded_snd limit data w, s.alike_threaded_iff limit data w⟩
  case turns =>
    intro data w
    exact ⟨fun _ _ _ _ => AsyncSigner.signClaim_of_runIn, s.threaded.runIn_alone data w⟩
  case recorded =>
    intro data w schedule reserved result w' h
    have hsign : s.recorded.threaded.signClaim data w = (result, w') :=
      AsyncSigner.signClaim_of_runIn h
    have hleft := s.recorded.signClaimUnder_threaded_snd 0 data w
    rw [← AsyncSigner.signClaim, hsign] at hleft
    obtain ⟨hresult, hworld⟩ := s.recording_threaded 0 data w
    rw [← AsyncSigner.signClaim, hsign] at hresult hworld
    exact ⟨hleft.symm, Prod.ext hresult.symm hworld.symm⟩
  case together =>
    intro f hf claims w schedule answers h
    have hagree := AsyncSigner.agree_of_gave hf h
    refine ⟨hagree.length_eq.symm, ?_, ?_⟩
    · intro i data reserved signature hdata hanswer
      obtain ⟨data', hdata', hsign, hle⟩ := AsyncSigner.forall₂_getElem? hagree hanswer
      obtain rfl := Option.some.inj (hdata.symm.trans hdata')
      have hstart : (AsyncSigner.Gathering.start claims w).stages[i]? = some (.waiting data) := by
        rw [AsyncSigner.Gathering.start, List.getElem?_map, hdata]
        rfl
      have hend : (s.threaded.runIn schedule (.start claims w)).stages[i]? =
          some (.done (some reserved) (.ok signature)) := by
        rw [h, List.getElem?_map, hanswer]
        rfl
      exact ⟨AsyncSigner.reads_of_done hstart hend, hle,
        s.signClaim_fst fun b => (hf data b).trans hsign⟩
    · intro v signatures v' hrun
      have hsigned := s.signatures_of_mapM hf hrun
      have hanswers : List.Forall₂ (fun data signature => f data = .ok signature) claims
          (answers.map Prod.snd) := by
        rw [List.forall₂_map_right_iff]
        exact hagree.imp fun data answer h => h.1
      refine List.right_unique_forall₂' ?_ hsigned hanswers
      intro data signature signature' h h'
      exact Except.ok.inj (h.symm.trans h')
  case gathered =>
    intro order claims w signatures w' horder h
    obtain ⟨answers, g, rfl, hgave, hworld, hsignatures⟩ :=
      AsyncSigner.exists_runIn_of_gatherIn rfl horder h
    exact ⟨_, answers, hgave, hworld, hsignatures⟩

/-- Two claims that are signed by turns with a signer whose reservations vary: the second one reads
its reservation first, and the first one is signed last. -/
theorem Signer.threaded_simulates_varying :
    Outcome.Alike
      ((Signer.varying (ascii "abcde")).threaded.signClaimUnder .usual [1]
        ⟨⟨[], [], []⟩, [], [7, 9]⟩).1
      ((Signer.varying (ascii "abcde")).signClaimUnder .usual [1] ⟨⟨[], [], []⟩, [], [7, 9]⟩).1 ∧
    (∃ w', (Signer.varying (ascii "abcde")).threaded.signClaim [1] ⟨⟨[], [], []⟩, [], [7, 9]⟩ =
      (.ok (ascii "abcde"), w')) ∧
    ((Signer.varying (ascii "abcde")).recorded.signClaim [1]
      ⟨⟨[], [], []⟩, [], ([7, 9], [])⟩).2.backend.2 = [.reserveSize, .sign [1]] ∧
    (Signer.varying (ascii "abcde")).threaded.Reads [1, 0, 1, 1, 0, 0]
      (.start [[1], [2, 3]] ⟨⟨[], [], []⟩, [], [7, 9]⟩) 0 9 ∧
    ∃ schedule answers, ((Signer.varying (ascii "abcde")).threaded.runIn schedule
      (.start [[1], [2, 3]] ⟨⟨[], [], []⟩, [], [7, 9]⟩)).Gave answers ∧
      answers.map Prod.snd = [ascii "abcde", ascii "abcde"] := by
  obtain ⟨halone, hturns, hrecorded, htogether, hgathered⟩ :=
    Signer.threaded_simulates (Signer.varying (ascii "abcde"))
  refine ⟨?alone, ?turns, ?recorded, ?together, ?gathered⟩
  case alone =>
    refine (halone .usual [1] _).2.2 ?_
    rintro reserved f b ⟨_, _, hsign⟩
    cases hsign
  case turns =>
    exact ⟨_, (hturns [1] _).1 [0, 1, 0, 0] (some 7) (.ok (ascii "abcde")) _ rfl⟩
  case recorded =>
    rw [(hrecorded [1] ⟨⟨[], [], []⟩, [], ([7, 9], [])⟩ [0, 0, 0] (some 7) (.ok (ascii "abcde")) _
      rfl).1]
    rfl
  case together =>
    have hgave := htogether (fun _ => .ok (ascii "abcde")) (fun _ _ => rfl) [[1], [2, 3]]
      ⟨⟨[], [], []⟩, [], [7, 9]⟩ [1, 0, 1, 1, 0, 0] [(9, ascii "abcde"), (7, ascii "abcde")] rfl
    exact (hgave.2.1 0 [1] 9 (ascii "abcde") rfl rfl).1
  case gathered =>
    have horder : ∀ i, i < 2 → i ∈ [1, 0] := by
      intro i hi
      simp only [List.mem_cons, List.not_mem_nil, or_false]
      omega
    obtain ⟨schedule, answers, hgave, _, hsignatures⟩ := hgathered [1, 0] [[1], [2, 3]]
      ⟨⟨[], [], []⟩, [], [7, 9]⟩ [ascii "abcde", ascii "abcde"] _ horder rfl
    exact ⟨schedule, answers, hgave, hsignatures.symm⟩

/-- A signer whose connection to the token that it signs with takes too long. -/
def Signer.waitingForToken : Signer Unit :=
  { Signer.placeholder with
    sign := fun _ => throw (.fault ⟨.system none, [.json (.int 110),
      .json (.str (txt "Connection timed out")), .json (.str (txt "/mnt/token"))]⟩) }

/-- Not every failure looks the same: a worker loses the name of the file. -/
theorem Signer.not_forall_alike_threaded :
    ¬ ∀ (s : Signer Unit) (data : Bytes) (w : World Unit),
      Outcome.Alike (s.threaded.signClaim data w).1 (s.signClaim data w).1 := by
  intro h
  have htells : Signer.waitingForToken.Tells [] () 128 _ () := ⟨(), rfl, rfl⟩
  have halike := (Signer.waitingForToken.alike_threaded_iff 0 [] ⟨⟨[], [], []⟩, [], ()⟩).1
    (h Signer.waitingForToken [] _) 128 _ () htells
  exact halike (.timeout rfl nofun (Nat.zero_le 2))

end ClaimSeal

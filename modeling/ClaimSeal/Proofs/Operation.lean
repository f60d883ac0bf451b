import ClaimSeal.Async
import ClaimSeal.Config

/-!
**How operations run.**

An operation that gives a value did so step after step, each from where the one before stopped.
This module says for every step what it takes to give a value and where it stops, and then the same
for signing with the size check and for signing with a configured signer.

Main results:

* `Outcome.bind_eq_ok_iff`, `Outcome.bind_eq_error_iff`, `Outcome.mapM_eq_error_iff` — computations
  that may fail, one after another;
* `Run.bind_eq_ok_iff` — the same with a state;
* `Operation.act_eq_ok_iff`, `Operation.ofExcept_eq_ok_iff` — single steps;
* `signWithin_eq_ok_iff`, `Signer.signClaim_eq_ok_iff` — signing with the size check;
* `Config.signBytes_eq_ok_iff`, `Config.signBytes_of_sign` — signing with a configured signer.
-/

set_option autoImplicit false

namespace ClaimSeal

namespace Outcome

variable {ε α β : Type}

/-! ### Computations that may fail -/

theorem bind_eq_ok_iff {r : Except ε α} {f : α → Except ε β} {b : β} :
    (r >>= f) = .ok b ↔ ∃ a, r = .ok a ∧ f a = .ok b := by
  cases r with
  | ok a =>
      constructor
      · intro h
        exact ⟨a, rfl, h⟩
      · rintro ⟨a', h, hf⟩
        cases h
        exact hf
  | error e =>
      constructor
      · intro h
        cases h
      · rintro ⟨a', h, _⟩
        cases h

theorem mapError_eq_ok_iff {ε' : Type} {g : ε → ε'} {r : Except ε α} {a : α} :
    r.mapError g = .ok a ↔ r = .ok a := by
  cases r with
  | ok a' =>
      constructor
      · intro h
        cases h
        rfl
      · intro h
        cases h
        rfl
  | error e =>
      constructor
      · intro h
        cases h
      · intro h
        cases h

theorem map_eq_ok_iff {g : α → β} {r : Except ε α} {b : β} :
    r.map g = .ok b ↔ ∃ a, r = .ok a ∧ g a = b := by
  cases r <;> simp [Except.map]

theorem map_eq_error_iff {g : α → β} {r : Except ε α} {e : ε} :
    r.map g = .error e ↔ r = .error e := by
  cases r <;> simp [Except.map]

theorem toOption_eq_some_iff {r : Except ε α} {a : α} : r.toOption = some a ↔ r = .ok a := by
  cases r <;> simp [Except.toOption]

theorem bind_eq_error_iff {r : Except ε α} {f : α → Except ε β} {e : ε} :
    (r >>= f) = .error e ↔ r = .error e ∨ ∃ a, r = .ok a ∧ f a = .error e := by
  cases r with
  | ok a =>
      constructor
      · intro h
        exact .inr ⟨a, rfl, h⟩
      · rintro (h | ⟨a', h, hf⟩)
        · cases h
        · cases h
          exact hf
  | error e' =>
      constructor
      · intro h
        cases h
        exact .inl rfl
      · rintro (h | ⟨a', h, _⟩)
        · cases h
          rfl
        · cases h

theorem mapError_eq_error_iff {ε' : Type} {g : ε → ε'} {r : Except ε α} {e' : ε'} :
    r.mapError g = .error e' ↔ ∃ e, r = .error e ∧ g e = e' := by
  cases r with
  | ok a =>
      constructor
      · intro h
        cases h
      · rintro ⟨e, h, _⟩
        cases h
  | error e =>
      constructor
      · intro h
        cases h
        exact ⟨e, rfl, rfl⟩
      · rintro ⟨e₀, h, rfl⟩
        cases h
        rfl

/-- Whether a computation fails in a given way does not depend on what it might give. -/
instance decidableEqError [DecidableEq ε] (r : Except ε α) (e : ε) : Decidable (r = .error e) :=
  match r with
  | .ok _ => isFalse nofun
  | .error e' => decidable_of_iff (e' = e) ⟨congrArg _, Except.error.inj⟩

/-- A list of computations fails as the first one does that fails. -/
theorem mapM_eq_error_iff {f : α → Except ε β} {as : List α} {e : ε} :
    as.mapM f = .error e ↔ ∃ front a back, as = front ++ a :: back ∧
      (∀ x ∈ front, ∃ b, f x = .ok b) ∧ f a = .error e := by
  induction as with
  | nil =>
      constructor
      · intro h
        cases h
      · rintro ⟨front, a, back, h, _⟩
        simp at h
  | cons x as ih =>
      rw [List.mapM_cons, bind_eq_error_iff]
      constructor
      · rintro (hx | ⟨b, hb, h⟩)
        · exact ⟨[], x, as, rfl, by simp, hx⟩
        · -- the first one gives a value, so one of the others fails
          rcases bind_eq_error_iff.1 h with h | ⟨bs, _, h⟩
          · obtain ⟨front, a, back, rfl, hfront, ha⟩ := ih.1 h
            refine ⟨x :: front, a, back, rfl, ?_, ha⟩
            intro y hy
            rcases List.mem_cons.1 hy with rfl | hy
            · exact ⟨b, hb⟩
            · exact hfront y hy
          · cases h
      · rintro ⟨front, a, back, h, hfront, ha⟩
        cases front with
        | nil =>
            obtain ⟨rfl, rfl⟩ := List.cons.inj h
            exact .inl ha
        | cons y front =>
            obtain ⟨rfl, rfl⟩ := List.cons.inj h
            obtain ⟨b, hb⟩ := hfront x List.mem_cons_self
            refine .inr ⟨b, hb, bind_eq_error_iff.2 (.inl (ih.2 ?_))⟩
            exact ⟨front, a, back, rfl, fun z hz => hfront z (List.mem_cons_of_mem _ hz), ha⟩

/-- What a list of results is made of. -/
theorem exists_of_mem_mapM {f : α → Except ε β} {as : List α} {bs : List β} {b : β}
    (h : as.mapM f = .ok bs) (hb : b ∈ bs) : ∃ a ∈ as, f a = .ok b := by
  induction as generalizing bs with
  | nil =>
      cases h
      cases hb
  | cons a as ih =>
      rw [List.mapM_cons] at h
      obtain ⟨b₀, hb₀, h⟩ := bind_eq_ok_iff.1 h
      obtain ⟨bs₀, hbs₀, h⟩ := bind_eq_ok_iff.1 h
      cases h
      rcases List.mem_cons.1 hb with rfl | hb
      · exact ⟨a, List.mem_cons_self, hb₀⟩
      · obtain ⟨a', ha', hf⟩ := ih hbs₀ hb
        exact ⟨a', List.mem_cons_of_mem _ ha', hf⟩

/-- All that a list of results was made of has a part in it. -/
theorem exists_mem_of_mapM {f : α → Except ε β} {as : List α} {bs : List β} {a : α}
    (h : as.mapM f = .ok bs) (ha : a ∈ as) : ∃ b ∈ bs, f a = .ok b := by
  induction as generalizing bs with
  | nil => cases ha
  | cons a₀ as ih =>
      rw [List.mapM_cons] at h
      obtain ⟨b₀, hb₀, h⟩ := bind_eq_ok_iff.1 h
      obtain ⟨bs₀, hbs₀, h⟩ := bind_eq_ok_iff.1 h
      cases h
      rcases List.mem_cons.1 ha with rfl | ha
      · exact ⟨b₀, List.mem_cons_self, hb₀⟩
      · obtain ⟨b, hb, hf⟩ := ih hbs₀ ha
        exact ⟨b, List.mem_cons_of_mem _ hb, hf⟩

end Outcome

namespace Run

variable {ε S α β : Type}

/-! ### Computations with a state that may fail -/

/-- Two runs that give values end the same way exactly when values and states are the same. -/
theorem ok_eq_ok_iff {a b : α} {w w' : S} :
    ((.ok a, w) : Id (Except ε α × S)) = (.ok b, w') ↔ a = b ∧ w = w' := by
  constructor
  · intro h
    cases h
    exact ⟨rfl, rfl⟩
  · rintro ⟨rfl, rfl⟩
    rfl

theorem error_eq_error_iff {e e' : ε} {w w' : S} :
    ((.error e, w) : Id (Except ε α × S)) = (.error e', w') ↔ e = e' ∧ w = w' := by
  constructor
  · intro h
    cases h
    exact ⟨rfl, rfl⟩
  · rintro ⟨rfl, rfl⟩
    rfl

theorem error_ne_ok {e : ε} {b : α} {w w' : S} :
    ((.error e, w) : Id (Except ε α × S)) ≠ (.ok b, w') := by
  intro h
  cases h

/-- A computation that fails is not followed by another one. -/
theorem bind_apply (o : ExceptT ε (StateM S) α) (f : α → ExceptT ε (StateM S) β) (w : S) :
    (o >>= f) w = match o w with
      | (.ok a, v) => f a v
      | (.error e, v) => (.error e, v) := by
  simp only [bind, ExceptT.bind, ExceptT.mk, StateT.bind]
  cases o w with
  | mk r v => cases r <;> rfl

/-- A computation followed by another one gives a value if both do, the second from where the first
stopped. -/
theorem bind_eq_ok_iff {o : ExceptT ε (StateM S) α} {f : α → ExceptT ε (StateM S) β} {w w' : S}
    {b : β} : (o >>= f) w = (.ok b, w') ↔ ∃ a v, o w = (.ok a, v) ∧ f a v = (.ok b, w') := by
  rw [bind_apply]
  rcases o w with ⟨r, v⟩
  cases r with
  | ok a =>
      constructor
      · intro h
        exact ⟨a, v, rfl, h⟩
      · rintro ⟨a', v', h, hf⟩
        cases h
        exact hf
  | error e =>
      constructor
      · intro h
        exact absurd h error_ne_ok
      · rintro ⟨a', v', h, _⟩
        exact absurd h error_ne_ok

theorem pure_eq_ok_iff {a b : α} {w w' : S} :
    (pure a : ExceptT ε (StateM S) α) w = (.ok b, w') ↔ a = b ∧ w = w' := ok_eq_ok_iff

theorem exists_of_isOk {o : ExceptT ε (StateM S) α} {w : S} (h : (o w).1.isOk = true) :
    ∃ a w', o w = (.ok a, w') := by
  rcases hrun : o w with ⟨r, w'⟩
  rw [hrun] at h
  cases r with
  | ok a => exact ⟨a, w', rfl⟩
  | error e => cases h

theorem throw_ne_ok {e : ε} {b : α} {w w' : S} :
    (throw e : ExceptT ε (StateM S) α) w ≠ (.ok b, w') := error_ne_ok

end Run

open Run

variable {σ α β : Type}

namespace Operation

/-! ### Single steps -/

theorem act_eq_ok_iff {a : Action σ α} {w w' : World σ} {x : α} :
    act a w = (.ok x, w') ↔ ∃ b, a w.backend = (.ok x, b) ∧ w' = { w with backend := b } := by
  rw [act]
  rcases a w.backend with ⟨r, b⟩
  constructor
  · intro h
    cases h
    exact ⟨b, rfl, rfl⟩
  · rintro ⟨b', h, rfl⟩
    cases h
    rfl

theorem ofExcept_eq_ok_iff {ε : Type} {failure : ε → Failure} {r : Except ε α} {w w' : World σ}
    {x : α} : ofExcept failure r w = (.ok x, w') ↔ r = .ok x ∧ w = w' := by
  cases r with
  | ok a =>
      rw [ofExcept, pure_eq_ok_iff, Except.ok.injEq]
  | error e =>
      constructor
      · intro h
        exact absurd h throw_ne_ok
      · rintro ⟨h, _⟩
        cases h

theorem ofExcept_bind_apply {ε : Type} (failure : ε → Failure) (r : Except ε α)
    (f : α → Operation σ β) (w : World σ) :
    (ofExcept failure r >>= f) w = match r with
      | .ok a => f a w
      | .error e => (.error (failure e), w) := by
  rw [bind_apply]
  cases r <;> rfl

theorem log_apply (level : Level) (text : Text) (w : World σ) :
    log level text w = (.ok (), { w with log := w.log ++ [⟨level, text⟩] }) := rfl

theorem outcome_apply (o : Operation σ α) (w : World σ) :
    outcome o w = (.ok (o w).1, (o w).2) := rfl

theorem path_eq_ok_iff {p : PathArg} {w w' : World σ} {path : Path} :
    Operation.path p w = (.ok path, w') ↔ p.toPath = .ok path ∧ w = w' := ofExcept_eq_ok_iff

/-- Reading a file leaves the world as it is. -/
theorem readFileOr_eq_ok_iff {report : FileError → Failure} {p : Path} {w w' : World σ}
    {content : Bytes} : readFileOr report p w = (.ok content, w') ↔
      ∃ sys, p.toSystem = .ok sys ∧ w.files.read sys = .ok content ∧ w = w' := by
  rw [readFileOr, bind_eq_ok_iff]
  constructor
  · rintro ⟨sys, v, hv, h⟩
    obtain ⟨hsys, rfl⟩ := ofExcept_eq_ok_iff.1 hv
    exact ⟨sys, hsys, ofExcept_eq_ok_iff.1 h⟩
  · rintro ⟨sys, hsys, h⟩
    exact ⟨sys, w, ofExcept_eq_ok_iff.2 ⟨hsys, rfl⟩, ofExcept_eq_ok_iff.2 h⟩

end Operation

open Operation

/-! ### Numbers that are written -/

@[simp] theorem DigitLimit.admits_zero (i : Int) : DigitLimit.admits 0 i = true := rfl

theorem written_of_admits {limit : DigitLimit} {i : Int} (h : limit.admits i = true) :
    written limit i = .ok () := by
  rw [written, if_pos h]

theorem written_of_not_admits {limit : DigitLimit} {i : Int} (h : limit.admits i = false) :
    written limit i = .error (.longNumber limit) := by
  rw [written, if_neg (by rw [h]; exact Bool.false_ne_true)]

section SizeCheck

variable {limit : DigitLimit} {sign : Bytes → Action σ Bytes} {data signature passed : Bytes}
  {reserved : Int} {w w' : World σ} {b : σ}

theorem checkSizeUnder_of_le (limit : DigitLimit) (h : (signature.length : Int) ≤ reserved) :
    checkSizeUnder limit signature reserved = .ok signature := by
  rw [checkSizeUnder, if_pos h]

/-- If the reservation may be written it does not matter that there is a limit. -/
theorem checkSizeUnder_of_admits (h : limit.admits reserved = true) :
    checkSizeUnder limit signature reserved = checkSize signature reserved := by
  simp only [checkSize, checkSizeUnder, written_of_admits h,
    written_of_admits (DigitLimit.admits_zero reserved)]

theorem checkSizeUnder_eq_ok_iff :
    checkSizeUnder limit signature reserved = .ok passed ↔
      (signature.length : Int) ≤ reserved ∧ signature = passed := by
  by_cases h : (signature.length : Int) ≤ reserved
  · simp [checkSizeUnder_of_le limit h, h]
  · rw [checkSizeUnder, if_neg h]
    cases hlimit : limit.admits reserved with
    | true => simp [written_of_admits hlimit, h]
    | false => simp [written_of_not_admits hlimit, h]

theorem checkSize_eq_ok_iff :
    checkSize signature reserved = .ok passed ↔
      (signature.length : Int) ≤ reserved ∧ signature = passed := checkSizeUnder_eq_ok_iff

/-- The world after a signature was made: the backend has moved on and one line was logged. -/
def World.afterSigning (w : World σ) (backend : σ) (data signature : Bytes) (reserved : Int) :
    World σ :=
  { w with backend, log := w.log ++ [⟨.debug, signedLine data signature reserved⟩] }

/-- A failure to sign is reported as one, before any check. -/
theorem signWithinUnder_of_error {f : Failure} (h : sign data w.backend = (.error f, b)) :
    signWithinUnder limit sign data reserved w =
      (.error f.toSigning, { w with backend := b }) := by
  rw [signWithinUnder, bind_apply, outcome_apply, act, h]
  rfl

/-- A signature is logged and checked if the reservation may be written. -/
theorem signWithinUnder_of_signature (hlimit : limit.admits reserved = true)
    (h : sign data w.backend = (.ok signature, b)) :
    signWithinUnder limit sign data reserved w =
      (checkSize signature reserved, w.afterSigning b data signature reserved) := by
  rw [signWithinUnder, bind_apply, outcome_apply, act, h]
  dsimp only
  rw [written_of_admits hlimit, checkSizeUnder_of_admits hlimit, bind_apply]
  cases checkSize signature reserved <;> rfl

/-- Otherwise a signature is given up: neither is it logged nor checked. -/
theorem signWithinUnder_of_not_admits (hlimit : limit.admits reserved = false)
    (h : sign data w.backend = (.ok signature, b)) :
    signWithinUnder limit sign data reserved w =
      (.error (.longNumber limit), { w with backend := b }) := by
  rw [signWithinUnder, bind_apply, outcome_apply, act, h]
  dsimp only
  rw [written_of_not_admits hlimit]
  rfl

theorem signWithin_of_error {f : Failure} (h : sign data w.backend = (.error f, b)) :
    signWithin sign data reserved w = (.error f.toSigning, { w with backend := b }) :=
  signWithinUnder_of_error h

theorem signWithin_of_signature (h : sign data w.backend = (.ok signature, b)) :
    signWithin sign data reserved w =
      (checkSize signature reserved, w.afterSigning b data signature reserved) :=
  signWithinUnder_of_signature rfl h

/-- A signature is given as it is if it fits and the reservation may be written, and not
otherwise. -/
theorem signWithinUnder_eq_ok_iff :
    signWithinUnder limit sign data reserved w = (.ok signature, w') ↔
      ∃ b, sign data w.backend = (.ok signature, b) ∧ limit.admits reserved = true ∧
        (signature.length : Int) ≤ reserved ∧
        w' = w.afterSigning b data signature reserved := by
  rcases hs : sign data w.backend with ⟨f | answer, b⟩
  · rw [signWithinUnder_of_error hs]
    constructor
    · intro h
      exact absurd h error_ne_ok
    · rintro ⟨_, h, _⟩
      exact absurd h error_ne_ok
  · cases hlimit : limit.admits reserved with
    | false =>
        rw [signWithinUnder_of_not_admits hlimit hs]
        constructor
        · intro h
          exact absurd h error_ne_ok
        · rintro ⟨_, _, h, _⟩
          cases h
    | true =>
        rw [signWithinUnder_of_signature hlimit hs]
        constructor
        · intro h
          obtain ⟨hle, rfl⟩ := checkSize_eq_ok_iff.1 (congrArg Prod.fst h)
          exact ⟨b, rfl, rfl, hle, (congrArg Prod.snd h).symm⟩
        · rintro ⟨b', h, _, hle, rfl⟩
          obtain ⟨rfl, rfl⟩ := ok_eq_ok_iff.1 h
          rw [checkSize_eq_ok_iff.2 ⟨hle, rfl⟩]

theorem signWithin_eq_ok_iff :
    signWithin sign data reserved w = (.ok signature, w') ↔
      ∃ b, sign data w.backend = (.ok signature, b) ∧ (signature.length : Int) ≤ reserved ∧
        w' = w.afterSigning b data signature reserved := by
  rw [signWithin, signWithinUnder_eq_ok_iff]
  simp only [DigitLimit.admits_zero, true_and]

end SizeCheck

/-- Signing with the size check reads the reservation first and then signs. -/
theorem Signer.signClaim_eq (s : Signer σ) (data : Bytes) :
    s.signClaim data = act s.reserveSize >>= fun reserved => signWithin s.sign data reserved := rfl

theorem AsyncSigner.signClaim_eq (s : AsyncSigner σ) (data : Bytes) :
    s.signClaim data = act s.reserveSize >>= fun reserved => signWithin s.sign data reserved := rfl

theorem Signer.signClaimUnder_eq_ok_iff {limit : DigitLimit} {s : Signer σ}
    {data signature : Bytes} {w w' : World σ} :
    s.signClaimUnder limit data w = (.ok signature, w') ↔
      ∃ reserved b b', s.reserveSize w.backend = (.ok reserved, b) ∧
        s.sign data b = (.ok signature, b') ∧ limit.admits reserved = true ∧
        (signature.length : Int) ≤ reserved ∧
        w' = w.afterSigning b' data signature reserved := by
  rw [signClaimUnder, bind_eq_ok_iff]
  constructor
  · rintro ⟨reserved, v, hr, h⟩
    obtain ⟨b, hb, rfl⟩ := act_eq_ok_iff.1 hr
    obtain ⟨b', hs, hlimit, hle, rfl⟩ := signWithinUnder_eq_ok_iff.1 h
    exact ⟨reserved, b, b', hb, hs, hlimit, hle, rfl⟩
  · rintro ⟨reserved, b, b', hb, hs, hlimit, hle, rfl⟩
    exact ⟨reserved, _, act_eq_ok_iff.2 ⟨b, hb, rfl⟩,
      signWithinUnder_eq_ok_iff.2 ⟨b', hs, hlimit, hle, rfl⟩⟩

theorem Signer.signClaim_eq_ok_iff {s : Signer σ} {data signature : Bytes} {w w' : World σ} :
    s.signClaim data w = (.ok signature, w') ↔
      ∃ reserved b b', s.reserveSize w.backend = (.ok reserved, b) ∧
        s.sign data b = (.ok signature, b') ∧ (signature.length : Int) ≤ reserved ∧
        w' = w.afterSigning b' data signature reserved := by
  rw [signClaim, signClaimUnder_eq_ok_iff]
  simp only [DigitLimit.admits_zero, true_and]

/-! ### Signing in a worker -/

theorem Action.delivered_of_error {α : Type} {a : Action σ α} {b b' : σ} {f : Failure}
    (h : a b = (.error f, b')) : Action.delivered a b = (.error f.delivered, b') := by
  rw [delivered, h]
  rfl

theorem Action.delivered_of_ok {α : Type} {a : Action σ α} {b b' : σ} {x : α}
    (h : a b = (.ok x, b')) : Action.delivered a b = (.ok x, b') := by
  rw [delivered, h]
  rfl

/-- Values are handed on as they are. -/
theorem Action.delivered_eq_ok_iff {α : Type} {a : Action σ α} {b b' : σ} {x : α} :
    Action.delivered a b = (.ok x, b') ↔ a b = (.ok x, b') := by
  rcases h : a b with ⟨f | y, b₁⟩
  · rw [delivered_of_error h]
    exact iff_of_false error_ne_ok error_ne_ok
  · rw [delivered_of_ok h]

/-- A worker makes the same signatures. -/
theorem Signer.signClaim_threaded_eq_ok_iff {s : Signer σ} {data signature : Bytes}
    {w w' : World σ} :
    s.threaded.signClaim data w = (.ok signature, w') ↔
      s.signClaim data w = (.ok signature, w') := by
  have hreserve : s.threaded.reserveSize = s.reserveSize := rfl
  rw [AsyncSigner.signClaim_eq, signClaim_eq, hreserve, bind_eq_ok_iff, bind_eq_ok_iff]
  refine exists_congr fun reserved => exists_congr fun v => and_congr_right fun _ => ?_
  rw [signWithin_eq_ok_iff, signWithin_eq_ok_iff]
  exact exists_congr fun b => and_congr_left fun _ => Action.delivered_eq_ok_iff

/-- Where a worker signs, all is left as where nobody waits for one. -/
theorem signWithinUnder_delivered_snd (limit : DigitLimit) (sign : Bytes → Action σ Bytes)
    (data : Bytes) (reserved : Int) (w : World σ) :
    (signWithinUnder limit (fun d => Action.delivered (sign d)) data reserved w).2 =
      (signWithinUnder limit sign data reserved w).2 := by
  rcases h : sign data w.backend with ⟨f | signature, b⟩
  · have hdelivered := Action.delivered_of_error h
    rw [signWithinUnder_of_error h, signWithinUnder_of_error hdelivered]
  · have hdelivered := Action.delivered_of_ok h
    cases hlimit : limit.admits reserved with
    | true =>
        rw [signWithinUnder_of_signature hlimit h, signWithinUnder_of_signature hlimit hdelivered]
    | false =>
        rw [signWithinUnder_of_not_admits hlimit h, signWithinUnder_of_not_admits hlimit hdelivered]

theorem Signer.signClaimUnder_threaded_snd (limit : DigitLimit) (s : Signer σ) (data : Bytes)
    (w : World σ) :
    (s.threaded.signClaimUnder limit data w).2 = (s.signClaimUnder limit data w).2 := by
  have hreserve : s.threaded.reserveSize = s.reserveSize := rfl
  rw [AsyncSigner.signClaimUnder, signClaimUnder, hreserve, bind_apply, bind_apply]
  rcases act s.reserveSize w with ⟨f | reserved, v⟩
  · rfl
  · exact signWithinUnder_delivered_snd limit s.sign data reserved v

/-! ### Signing with a configured signer -/

namespace Config

/-- The answers of a signer that a signed claim is made of.  Every accessor is asked once, from
where the one before left the backend, except for the reservation: it is recorded by the first
question and checked by the second. -/
structure Answers (s : Signer σ) (data : Bytes) (b b' : σ) (claim : SignedClaim) (checked : Int) :
    Prop where
  answers : ∃ b₁ b₂ b₃ b₄ b₅ b₆,
    s.reserveSize b = (.ok claim.reserveSize, b₁) ∧
    s.certs b₁ = (.ok claim.certs, b₂) ∧
    s.alg b₂ = (.ok claim.alg, b₃) ∧
    s.reserveSize b₃ = (.ok checked, b₄) ∧
    s.sign data b₄ = (.ok claim.signature, b₅) ∧
    s.timeAuthorityUrl b₅ = (.ok claim.timeAuthorityUrl, b₆) ∧
    s.ocspVal b₆ = (.ok claim.ocspVal, b')
  fits : (claim.signature.length : Int) ≤ checked

/-- Signing in memory asks for the metadata around signing with the size check. -/
theorem signBytes_eq (c : Config σ) (data : Bytes) : c.signBytes data = (do
    let reserveSize ← act c.signer.reserveSize
    let certs ← act c.signer.certs
    let alg ← act c.signer.alg
    let signature ← c.signer.signClaim data
    let timeAuthorityUrl ← act c.signer.timeAuthorityUrl
    let ocspVal ← act c.signer.ocspVal
    return { signature, alg, certs, reserveSize, timeAuthorityUrl, ocspVal }) := rfl

/-- A signed claim is made of the answers of the signer. -/
theorem signBytes_eq_ok_iff {c : Config σ} {data : Bytes} {w w' : World σ} {claim : SignedClaim} :
    c.signBytes data w = (.ok claim, w') ↔
      ∃ b checked, Answers c.signer data w.backend b claim checked ∧
        w' = w.afterSigning b data claim.signature checked := by
  simp only [signBytes_eq, bind_eq_ok_iff, act_eq_ok_iff, Signer.signClaim_eq_ok_iff,
    pure_eq_ok_iff]
  constructor
  · rintro ⟨size, _, ⟨b₁, h₁, rfl⟩, certs, _, ⟨b₂, h₂, rfl⟩, alg, _, ⟨b₃, h₃, rfl⟩, signature, _,
      ⟨checked, b₄, b₅, h₄, h₅, hle, rfl⟩, url, _, ⟨b₆, h₆, rfl⟩, ocsp, _, ⟨b₇, h₇, rfl⟩, rfl, rfl⟩
    exact ⟨b₇, checked, ⟨⟨b₁, b₂, b₃, b₄, b₅, b₆, h₁, h₂, h₃, h₄, h₅, h₆, h₇⟩, hle⟩, rfl⟩
  · rintro ⟨b₇, checked, ⟨⟨b₁, b₂, b₃, b₄, b₅, b₆, h₁, h₂, h₃, h₄, h₅, h₆, h₇⟩, hle⟩, rfl⟩
    exact ⟨_, _, ⟨b₁, h₁, rfl⟩, _, _, ⟨b₂, h₂, rfl⟩, _, _, ⟨b₃, h₃, rfl⟩, _, _,
      ⟨checked, b₄, b₅, h₄, h₅, hle, rfl⟩, _, _, ⟨b₆, h₆, rfl⟩, _, _, ⟨b₇, h₇, rfl⟩, rfl, rfl⟩

/-- A file is signed by signing its content and writing the signature. -/
theorem sign_eq (c : Config σ) (claim signature : PathArg) : c.sign claim signature = (do
    let data ← readFile (← path claim)
    let signed ← c.signBytes data
    writeFile (← path signature) signed.signature
    log .info (wroteLine claim signature)
    return signed) := rfl

/-- What signing a file returns is what signing its content returns. -/
theorem signBytes_of_sign {c : Config σ} {claimPath signaturePath : PathArg} {w w' : World σ}
    {claim : SignedClaim} (h : c.sign claimPath signaturePath w = (.ok claim, w')) :
    ∃ data v, c.signBytes data w = (.ok claim, v) := by
  simp only [sign_eq, readFile, bind_eq_ok_iff, path_eq_ok_iff, readFileOr_eq_ok_iff,
    pure_eq_ok_iff] at h
  obtain ⟨_, _, ⟨_, rfl⟩, data, _, ⟨_, _, _, rfl⟩, signed, v, hs, h⟩ := h
  obtain ⟨_, _, _, _, _, _, _, _, _, rfl, _⟩ := h
  exact ⟨data, v, hs⟩

end Config

end ClaimSeal

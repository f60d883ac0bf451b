import ClaimSeal.Proofs.KeySigner.Building

/-!
**The search for the certificate of a key.**

The certificates are looked at one after the other, and the public key of each is loaded when it is
looked at.  The first one that holds the key of the signer, or whose public key cannot be loaded,
decides what comes of the search, and what stands after it is not looked at.  The certificate that
is found is taken out by its position: where the same certificate, or another one with the same key,
is there again, that one stays where it is.

Main definitions:

* `Certificate.Decides`, `IsDecisive` — a certificate ends the search, and is the first one to;
* `orderChainBy` — the search, with loads that act on a state;
* `loadedPositions` — the positions whose public keys are loaded;
* `OrdersChain` — what comes of the search.

Main results:

* `orderChainBy_fst` — whatever loads do besides, the search comes to the same chain;
* `loadedPositions_of_isDecisive` — nothing is loaded after the position that decides;
* `ordersChain` — **what comes of the search, for all certificates**.
-/

set_option autoImplicit false

namespace ClaimSeal

variable {κ τ : Type}

/-! ### The certificate that decides -/

/-- A certificate ends the search for a key: it holds that key, or its own cannot be loaded. -/
def Certificate.Decides (key : κ) (c : Certificate κ) : Prop :=
  c.publicKey = .ok key ∨ ∃ why, c.publicKey = .error why

theorem Certificate.not_decides_iff {key : κ} {c : Certificate κ} :
    ¬ c.Decides key ↔ c.HoldsOther key := by
  rw [Decides, HoldsOther]
  cases c.publicKey with
  | ok k => simp
  | error why => simp

/-- The certificate `c`, at position `i`, is the first one that ends the search. -/
structure IsDecisive (key : κ) (certs : List (Certificate κ)) (i : Nat) (c : Certificate κ) :
    Prop where
  position : certs[i]? = some c
  decides : c.Decides key
  least : ∀ j < i, ∀ d, certs[j]? = some d → ¬ d.Decides key

variable {key : κ} {certs : List (Certificate κ)} {i : Nat} {c : Certificate κ}

/-- The certificates before the first one that ends the search hold other keys. -/
theorem IsDecisive.exists_split (h : IsDecisive key certs i c) :
    ∃ front back, certs = front ++ c :: back ∧ front.length = i ∧
      ∀ d ∈ front, d.HoldsOther key := by
  obtain ⟨hi, hc⟩ := List.getElem?_eq_some_iff.1 h.position
  have hlength : (certs.take i).length = i := List.length_take_of_le (Nat.le_of_lt hi)
  refine ⟨certs.take i, certs.drop (i + 1), ?_, hlength, fun d hd => ?_⟩
  · rw [← hc, List.getElem_cons_drop, List.take_append_drop]
  · obtain ⟨j, hj, rfl⟩ := List.getElem_of_mem hd
    rw [hlength] at hj
    refine Certificate.not_decides_iff.1 (h.least j hj _ ?_)
    rw [List.getElem_take, List.getElem?_eq_getElem]

/-- If no certificate is the first one that ends the search then none ends it. -/
theorem holdsOther_of_forall_not_isDecisive (h : ∀ i c, ¬ IsDecisive key certs i c) :
    ∀ c ∈ certs, c.HoldsOther key := by
  rcases Certificate.exists_first key certs with hall | ⟨front, c, back, rfl, hfront, hc⟩
  · exact hall
  · refine absurd ⟨?_, hc, ?_⟩ (h front.length c)
    · simp
    · intro j hj d hd
      rw [List.getElem?_append_left hj] at hd
      exact Certificate.not_decides_iff.2 (hfront d (List.mem_of_getElem? hd))

/-! ### Loading -/

section Loads

variable [DecidableEq κ]

/-- The search for the certificate of a key, with a way of loading that is told the position and
acts on a state. -/
def orderChainBy (load : Nat → Certificate κ → τ → Except (Option Fault) κ × τ) (key : κ) :
    (before : List (Certificate κ)) → List (Certificate κ) → τ → Except Failure (Chain κ) × τ
  | _, [], state => (.error (.credential .unmatched), state)
  | before, c :: rest, state =>
      match load before.length c state with
      | (.error why, state) => (.error (publicKeyFailure before.length why), state)
      | (.ok k, state) =>
          if k = key then (.ok ⟨before ++ rest, c⟩, state)
          else orderChainBy load key (before ++ [c]) rest state

/-- Loading, with a record of the positions. -/
def recordLoad (i : Nat) (c : Certificate κ) (loaded : List Nat) :
    Except (Option Fault) κ × List Nat := (c.publicKey, loaded ++ [i])

/-- The positions whose public keys are loaded in the search, in the order of the loads. -/
def loadedPositions (key : κ) (certs : List (Certificate κ)) : List Nat :=
  (orderChainBy recordLoad key [] certs []).2

/-- Whatever the loads do to the state, the search comes to the same chain if they give the public
keys. -/
theorem orderChainBy_fst {load : Nat → Certificate κ → τ → Except (Option Fault) κ × τ}
    (hload : ∀ i c state, (load i c state).1 = c.publicKey) (before : List (Certificate κ))
    (state : τ) :
    (orderChainBy load key before certs state).1 =
      orderChainFrom key before.length before certs := by
  induction certs generalizing before state with
  | nil => rfl
  | cons c rest ih =>
      have hc := hload before.length c state
      rw [orderChainBy, orderChainFrom, ← hc]
      rcases load before.length c state with ⟨why | k, state'⟩
      · rfl
      · dsimp only
        split
        · rfl
        · rw [ih, List.length_append, List.length_singleton]

/-- Certificates with other keys are loaded one after the other. -/
theorem orderChainBy_recordLoad_append {front : List (Certificate κ)}
    (h : ∀ d ∈ front, d.HoldsOther key) (before rest : List (Certificate κ)) (loaded : List Nat) :
    orderChainBy recordLoad key before (front ++ rest) loaded =
      orderChainBy recordLoad key (before ++ front) rest
        (loaded ++ List.range' before.length front.length) := by
  induction front generalizing before loaded with
  | nil => simp
  | cons d front ih =>
      obtain ⟨hd, hfront⟩ := List.forall_mem_cons.1 h
      obtain ⟨k, hk, hne⟩ := hd
      rw [List.cons_append, orderChainBy, recordLoad, hk]
      dsimp only
      rw [if_neg hne, ih hfront]
      simp [List.range'_succ]

theorem loadedPositions_append {front : List (Certificate κ)}
    (h : ∀ d ∈ front, d.HoldsOther key) (rest : List (Certificate κ)) :
    loadedPositions key (front ++ rest) =
      (orderChainBy recordLoad key front rest (List.range front.length)).2 := by
  rw [loadedPositions, orderChainBy_recordLoad_append h, List.nil_append, List.nil_append,
    List.length_nil, ← List.range_eq_range']

/-- No public key is loaded after the position that decides, and every one up to it is. -/
theorem loadedPositions_of_isDecisive (h : IsDecisive key certs i c) :
    loadedPositions key certs = List.range (i + 1) := by
  obtain ⟨front, back, rfl, rfl, hfront⟩ := h.exists_split
  rw [loadedPositions_append hfront, orderChainBy, recordLoad, List.range_succ]
  rcases h.decides with hc | ⟨why, hc⟩
  · rw [hc]
    dsimp only
    rw [if_pos rfl]
  · rw [hc]

/-- If no certificate ends the search then every public key is loaded. -/
theorem loadedPositions_of_unmatched (h : ∀ c ∈ certs, c.HoldsOther key) :
    loadedPositions key certs = List.range certs.length := by
  have hall := loadedPositions_append h []
  rw [List.append_nil] at hall
  rw [hall, orderChainBy]

end Loads

/-! ### What comes of the search -/

/-- The certificates of a chain in the order in which they are given out, the signer's own at the
end. -/
def Chain.inOrder (chain : Chain κ) : List (Certificate κ) := chain.others ++ [chain.own]

/-- What comes of the search for the certificate of a key. -/
structure OrdersChain [DecidableEq κ] (key : κ) (certs : List (Certificate κ)) : Prop where
  /-- The certificate that decides is set apart if it holds the key: it is taken out at its position
  and comes after the others, which keep their order. -/
  matched : ∀ i c, IsDecisive key certs i c → c.publicKey = .ok key →
    ∃ chain, orderChain key certs = .ok chain ∧ chain.inOrder = certs.eraseIdx i ++ [c] ∧
      chain.own = c ∧ chain.inOrder.Perm certs ∧ chain.others.Sublist certs
  /-- If it is to blame for a public key that cannot be loaded, the error names its position. -/
  blamed : ∀ i c why, IsDecisive key certs i c → c.publicKey = .error why →
    (∀ f, why = some f → isKeyFault f = true) →
    ∃ e : CredentialError, orderChain key certs = .error (.credential e) ∧
      e.message = txt "Cannot load public key of certificate " ++ Text.ofNat i ++ txt ":"
        ++ CredentialError.after why
  /-- Any other fault in loading the public key is let out as it is. -/
  passed : ∀ i c f, IsDecisive key certs i c → c.publicKey = .error (some f) →
    isKeyFault f = false → orderChain key certs = .error (.fault f)
  /-- If none decides, as with no certificates at all, that is told. -/
  unmatched : (∀ i c, ¬ IsDecisive key certs i c) →
    orderChain key certs = .error (.credential .unmatched)
  /-- Up to the certificate that decides every public key is loaded, and none after it. -/
  loaded : ∀ i c, IsDecisive key certs i c → loadedPositions key certs = List.range (i + 1)
  /-- If none decides every public key is loaded. -/
  loadedAll : (∀ i c, ¬ IsDecisive key certs i c) →
    loadedPositions key certs = List.range certs.length
  /-- The loads that are recorded are those of this search. -/
  recorded : (orderChainBy recordLoad key [] certs []).1 = orderChain key certs

/-- **What comes of the search for the certificate of a key**, for all keys and certificates. -/
theorem ordersChain [DecidableEq κ] (key : κ) (certs : List (Certificate κ)) :
    OrdersChain key certs := by
  refine { matched := ?_, blamed := ?_, passed := ?_, unmatched := ?_,
           loaded := fun i c h => loadedPositions_of_isDecisive h, loadedAll := ?_,
           recorded := ?_ }
  · intro i c h hc
    obtain ⟨front, back, rfl, rfl, hfront⟩ := h.exists_split
    have herase : (front ++ c :: back).eraseIdx front.length = front ++ back := by
      rw [List.eraseIdx_append_of_length_le (Nat.le_refl _), Nat.sub_self, List.eraseIdx_cons_zero]
    refine ⟨_, orderChain_of_matched hfront hc, ?_, rfl, ?_, ?_⟩
    · rw [herase]
      rfl
    · exact (List.perm_append_singleton c _).trans List.perm_middle.symm
    · exact (List.sublist_cons_self c back).append_left front
  · intro i c why h hc hwhy
    obtain ⟨front, back, rfl, rfl, hfront⟩ := h.exists_split
    refine ⟨.publicKey front.length why, ?_, rfl⟩
    rw [orderChain_of_unloadable hfront hc]
    cases why with
    | none => rfl
    | some f => rw [publicKeyFailure, if_pos (hwhy f rfl)]
  · intro i c f h hc hf
    obtain ⟨front, back, rfl, rfl, hfront⟩ := h.exists_split
    rw [orderChain_of_unloadable hfront hc, publicKeyFailure, hf]
    rfl
  · intro h
    exact orderChain_of_unmatched (holdsOther_of_forall_not_isDecisive h)
  · intro h
    exact loadedPositions_of_unmatched (holdsOther_of_forall_not_isDecisive h)
  · exact orderChainBy_fst (fun _ _ _ => rfl) [] []

end ClaimSeal

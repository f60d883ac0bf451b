import ClaimSeal.Objects
import ClaimSeal.Proofs.KeySigner.Building
import ClaimSeal.Proofs.KeySigner.Invariant

/-!
**Signers do not change.**

A signer refers to a list that its copies share.  No method gives that list away: callers get lists
that were made for them, so the lists that they can change and the lists that signers refer to stay
apart.  No method assigns anything to a signer but to a copy that was just made.  So whatever is
done with signers, copies of them, lists and signed claims, every signer keeps its answers.

Main definitions:

* `Heap.Sealed` — signers refer to their own certificates, in lists that callers have not got;
* `Heap.Grows` — nothing has happened to the objects but that lists were made;
* `Heap.Mints` — a method that only makes lists, and gives what is new;
* `Heap.Does` — a method does what an operation does that sees no objects.

Main results:

* `Heap.mints_certs`, `Heap.mints_signBytes`, `Heap.mints_signFile` — lists that are given away are
  new;
* `Heap.withOcsp_of_some` — a copy is added, and nothing else;
* `Heap.keeps_method`, `Heap.keeps_run` — callers do not get at the lists of signers;
* `Heap.Sealed.does_signBytes`, `Heap.Sealed.does_signFile` — objects sign as values do;
* `Heap.signers_immutable` — **signers do not change**.
-/

set_option autoImplicit false

namespace ClaimSeal

open Run

variable {σ κ α β α' β' : Type}

/-- Of a signed claim all but the signature is what the signer was made of. -/
theorem KeySigner.signBytes_apply (s : KeySigner σ κ) (data : Bytes) (w : World σ) :
    Config.signBytes ⟨s.toSigner⟩ data w = match s.toSigner.signClaim data w with
      | (.ok signature, w') =>
          (.ok ⟨signature, some s.alg.name, s.certs, s.reserveSize, s.tsaUrl, s.ocsp⟩, w')
      | (.error f, w') => (.error f, w') := by
  show (s.toSigner.signClaim data >>= _) w = _
  rw [bind_apply]
  rcases s.toSigner.signClaim data w with ⟨r, w'⟩
  cases r <;> rfl

namespace Heap

/-! ### Methods that only make lists -/

/-- Nothing has happened to the objects but that lists were made. -/
structure Grows (h h' : Heap σ κ) : Prop where
  signers : h'.signers = h.signers
  held : h'.held = h.held
  claims : h'.claims = h.claims
  lists : h.lists <+: h'.lists

theorem Grows.refl (h : Heap σ κ) : Grows h h := ⟨rfl, rfl, rfl, List.prefix_refl _⟩

theorem Grows.trans {h₁ h₂ h₃ : Heap σ κ} (h : Grows h₁ h₂) (h' : Grows h₂ h₃) : Grows h₁ h₃ :=
  ⟨h'.signers.trans h.signers, h'.held.trans h.held, h'.claims.trans h.claims,
    h.lists.trans h'.lists⟩

/-- A method that only makes lists, the `n`-th one at first, and gives what has a property. -/
def Mints (n : Nat) (m : Method σ κ α) (Q : α → Prop) : Prop :=
  ∀ h, n ≤ h.lists.length → Grows h (m h).2 ∧ ∀ a, (m h).1 = .ok a → Q a

section Mints

variable {n : Nat} {Q : α → Prop}

theorem mints_pure {a : α} (ha : Q a) : Mints n (pure a : Method σ κ α) Q := by
  intro h _
  refine ⟨.refl h, ?_⟩
  intro a' ha'
  cases ha'
  exact ha

theorem mints_throw (f : Failure) : Mints n (throw f : Method σ κ α) Q := by
  intro h _
  refine ⟨.refl h, ?_⟩
  intro a ha
  cases ha

/-- What comes after a method goes on with the lists that it made. -/
theorem Mints.bind {m : Method σ κ α} {f : α → Method σ κ β} {Q' : β → Prop} (hm : Mints n m Q)
    (hf : ∀ a, Q a → Mints n (f a) Q') : Mints n (m >>= f) Q' := by
  intro h hn
  obtain ⟨hgrows, hQ⟩ := hm h hn
  rw [bind_apply]
  rcases hrun : m h with ⟨r, h'⟩
  rw [hrun] at hgrows hQ
  cases r with
  | error e =>
      refine ⟨hgrows, ?_⟩
      intro b hb
      cases hb
  | ok a =>
      obtain ⟨hgrows', hQ'⟩ := hf a (hQ a rfl) h' (Nat.le_trans hn hgrows.lists.length_le)
      exact ⟨hgrows.trans hgrows', hQ'⟩

theorem mints_get : Mints n (get : Method σ κ (Heap σ κ)) fun _ => True :=
  fun h _ => ⟨.refl h, fun _ _ => trivial⟩

theorem mints_found (x : Option α) : Mints n (Method.found x : Method σ κ α) fun _ => True := by
  cases x with
  | none => exact mints_throw _
  | some a => exact mints_pure trivial

theorem mints_lift (o : Operation σ α) : Mints n (Method.lift o : Method σ κ α) fun _ => True :=
  fun _ _ => ⟨⟨rfl, rfl, rfl, List.prefix_refl _⟩, fun _ _ => trivial⟩

theorem mints_signer (j : Nat) :
    Mints n (Method.signer j : Method σ κ (SignerObject σ κ)) fun _ => True :=
  mints_get.bind fun _ _ => mints_found _

theorem mints_content (r : Nat) :
    Mints n (Method.content r : Method σ κ (List Bytes)) fun _ => True :=
  mints_get.bind fun _ _ => mints_found _

/-- A list that is made is none of the first ones. -/
theorem mints_newList (content : List Bytes) :
    Mints n (Method.newList content : Method σ κ Nat) (n ≤ ·) := by
  intro h hn
  refine ⟨⟨rfl, rfl, rfl, List.prefix_append _ _⟩, ?_⟩
  intro r hr
  cases hr
  exact hn

/-- The list that a signer gives away is new. -/
theorem mints_certs (j : Nat) : Mints n (Method.certs j : Method σ κ Nat) (n ≤ ·) :=
  (mints_signer j).bind fun _ _ => (mints_content _).bind fun _ _ => mints_newList _

theorem mints_ask (j : Nat) (answer : SignerObject σ κ → α) :
    Mints n (do return answer (← Method.signer j) : Method σ κ α) fun _ => True :=
  (mints_signer j).bind fun _ _ => mints_pure trivial

theorem mints_use (j : Nat) (work : SignerObject σ κ → Operation σ α) :
    Mints n (do Method.lift (work (← Method.signer j)) : Method σ κ α) fun _ => True :=
  (mints_signer j).bind fun _ _ => mints_lift _

/-- The list in a signed claim is new. -/
theorem mints_signBytes (j : Nat) (data : Bytes) :
    Mints n (Method.signBytes j data : Method σ κ ClaimObject) fun c => n ≤ c.certs :=
  (mints_ask j _).bind fun _ _ => (mints_certs j).bind fun _ hcerts =>
    (mints_ask j _).bind fun _ _ => (mints_use j _).bind fun _ _ =>
      (mints_ask j _).bind fun _ _ => (mints_ask j _).bind fun _ _ => mints_pure hcerts

theorem mints_signFile (j : Nat) (claim signature : PathArg) :
    Mints n (Method.signFile j claim signature : Method σ κ ClaimObject) fun c => n ≤ c.certs :=
  (mints_lift _).bind fun _ _ => (mints_lift _).bind fun _ _ =>
    (mints_signBytes j _).bind fun _ hcerts => (mints_lift _).bind fun _ _ =>
      (mints_lift _).bind fun _ _ => (mints_lift _).bind fun _ _ => mints_pure hcerts

end Mints

/-! ### Methods of signers -/

theorem signer_apply (j : Nat) (h : Heap σ κ) :
    Method.signer j h = (match h.signers[j]? with
      | some o => .ok o
      | none => .error (.fault ⟨.lookup, []⟩), h) := by
  rw [Method.signer]
  show Method.found h.signers[j]? h = _
  cases h.signers[j]? <;> rfl

theorem signer_of_some {j : Nat} {h : Heap σ κ} {o : SignerObject σ κ}
    (ho : h.signers[j]? = some o) : Method.signer j h = (.ok o, h) := by
  rw [signer_apply, ho]

theorem signer_of_none {j : Nat} {h : Heap σ κ} (ho : h.signers[j]? = none) :
    Method.signer j h = (.error (.fault ⟨.lookup, []⟩), h) := by
  rw [signer_apply, ho]

theorem copy_of_some {j : Nat} {h : Heap σ κ} {o : SignerObject σ κ}
    (ho : h.signers[j]? = some o) :
    Method.copy j h = (.ok h.signers.length, { h with signers := h.signers ++ [o] }) := by
  rw [Method.copy, bind_apply, signer_of_some ho]
  rfl

theorem assignOcsp_of_some {j : Nat} {h : Heap σ κ} {o : SignerObject σ κ}
    (ho : h.signers[j]? = some o) (response : Bytes) :
    Method.assignOcsp j response h =
      (.ok (), { h with signers := h.signers.set j (o.withResponse response) }) := by
  rw [Method.assignOcsp, bind_apply, signer_of_some ho]
  rfl

/-- A copy is added to the signers: with the response if that is accepted, else as it is. -/
theorem withOcsp_of_some {j : Nat} {h : Heap σ κ} {o : SignerObject σ κ}
    (ho : h.signers[j]? = some o) (response : Bytes) :
    Method.withOcsp j response h = match acceptOcsp response o.parts.chain.own.serial with
      | .ok accepted =>
          (.ok h.signers.length, { h with signers := h.signers ++ [o.withResponse accepted] })
      | .error f => (.error f, { h with signers := h.signers ++ [o] }) := by
  obtain ⟨hj, _⟩ := List.getElem?_eq_some_iff.1 ho
  have hold : (h.signers ++ [o])[j]? = some o := by rw [List.getElem?_append_left hj, ho]
  have hnew : (h.signers ++ [o])[h.signers.length]? = some o := List.getElem?_concat_length
  rw [Method.withOcsp, bind_apply, copy_of_some ho]
  dsimp only
  rw [bind_apply, signer_of_some hold]
  dsimp only
  rw [bind_apply]
  cases acceptOcsp response o.parts.chain.own.serial with
  | error f => rfl
  | ok accepted =>
      show (Method.assignOcsp h.signers.length accepted >>= fun _ => pure h.signers.length)
        { h with signers := h.signers ++ [o] } = _
      rw [bind_apply, assignOcsp_of_some hnew]
      dsimp only
      rw [List.set_append_right _ _ (Nat.le_refl _), Nat.sub_self]
      rfl

theorem withOcsp_of_none {j : Nat} {h : Heap σ κ} (ho : h.signers[j]? = none) (response : Bytes) :
    Method.withOcsp j response h = (.error (.fault ⟨.lookup, []⟩), h) := by
  rw [Method.withOcsp, bind_apply, Method.copy, bind_apply, signer_of_none ho]

/-! ### What callers get at -/

/-- Signers refer to their own certificates, in lists that callers have not got. -/
structure Sealed (h : Heap σ κ) : Prop where
  lists : ∀ o ∈ h.signers, h.lists[o.certs]? = some o.parts.certs
  held : ∀ o ∈ h.signers, ∀ r ∈ h.held, r ≠ o.certs
  claims : ∀ o ∈ h.signers, ∀ c ∈ h.claims, c.certs ≠ o.certs

theorem sealed_start (s : KeySigner σ κ) (w : World σ) : (start s w).Sealed := by
  refine ⟨?_, ?_, ?_⟩
  · intro o ho
    obtain rfl := List.mem_singleton.1 ho
    rfl
  · intro o _ r hr
    cases hr
  · intro o _ c hc
    cases hc

/-- The list of a signer is one of the first ones. -/
theorem Sealed.certs_lt {h : Heap σ κ} (hs : h.Sealed) {o : SignerObject σ κ}
    (ho : o ∈ h.signers) : o.certs < h.lists.length :=
  (List.getElem?_eq_some_iff.1 (hs.lists o ho)).1

/-- Lists that are made do not change what signers refer to. -/
theorem Sealed.grows {h h' : Heap σ κ} (hs : h.Sealed) (hg : Grows h h') : h'.Sealed := by
  refine ⟨?_, ?_, ?_⟩
  · intro o ho
    rw [hg.signers] at ho
    obtain ⟨more, hmore⟩ := hg.lists
    rw [← hmore, List.getElem?_append_left (hs.certs_lt ho), hs.lists o ho]
  · rw [hg.signers, hg.held]
    exact hs.held
  · rw [hg.signers, hg.claims]
    exact hs.claims

/-- A list that is given away is not that of a signer if it is new. -/
theorem Sealed.hold {h : Heap σ κ} (hs : h.Sealed) {r : Nat} (hr : ∀ o ∈ h.signers, r ≠ o.certs) :
    Sealed { h with held := h.held ++ [r] } := by
  refine ⟨hs.lists, ?_, hs.claims⟩
  intro o ho r' hr'
  rcases List.mem_append.1 hr' with hr' | hr'
  · exact hs.held o ho r' hr'
  · obtain rfl := List.mem_singleton.1 hr'
    exact hr o ho

theorem Sealed.holdClaim {h : Heap σ κ} (hs : h.Sealed) {c : ClaimObject}
    (hc : ∀ o ∈ h.signers, c.certs ≠ o.certs) : Sealed { h with claims := h.claims ++ [c] } := by
  refine ⟨hs.lists, hs.held, ?_⟩
  intro o ho c' hc'
  rcases List.mem_append.1 hc' with hc' | hc'
  · exact hs.claims o ho c' hc'
  · obtain rfl := List.mem_singleton.1 hc'
    exact hc o ho

/-- Changing a list that is not that of a signer does not change what signers refer to. -/
theorem Sealed.setList {h : Heap σ κ} (hs : h.Sealed) {r : Nat} (content : List Bytes)
    (hr : ∀ o ∈ h.signers, r ≠ o.certs) : Sealed { h with lists := h.lists.set r content } := by
  refine ⟨?_, hs.held, hs.claims⟩
  intro o ho
  show (h.lists.set r content)[o.certs]? = _
  rw [List.getElem?_set_ne (hr o ho), hs.lists o ho]

/-- A copy of a signer refers to what the signer refers to. -/
theorem Sealed.addSigner {h : Heap σ κ} (hs : h.Sealed) {o o' : SignerObject σ κ}
    (ho : o ∈ h.signers) (hcerts : o'.certs = o.certs) (hparts : o'.parts.certs = o.parts.certs) :
    Sealed { h with signers := h.signers ++ [o'] } := by
  refine ⟨?_, ?_, ?_⟩
  · intro p hp
    rcases List.mem_append.1 hp with hp | hp
    · exact hs.lists p hp
    · obtain rfl := List.mem_singleton.1 hp
      rw [hcerts, hparts]
      exact hs.lists o ho
  · intro p hp
    rcases List.mem_append.1 hp with hp | hp
    · exact hs.held p hp
    · obtain rfl := List.mem_singleton.1 hp
      rw [hcerts]
      exact hs.held o ho
  · intro p hp
    rcases List.mem_append.1 hp with hp | hp
    · exact hs.claims p hp
    · obtain rfl := List.mem_singleton.1 hp
      rw [hcerts]
      exact hs.claims o ho

/-! ### What callers do -/

/-- What callers have not got stays so, and signers are only added. -/
structure Keeps (h h' : Heap σ κ) : Prop where
  sealed : h.Sealed → h'.Sealed
  signers : h.signers <+: h'.signers

theorem Keeps.refl (h : Heap σ κ) : Keeps h h := ⟨fun hs => hs, List.prefix_refl _⟩

theorem Keeps.trans {h₁ h₂ h₃ : Heap σ κ} (h : Keeps h₁ h₂) (h' : Keeps h₂ h₃) : Keeps h₁ h₃ :=
  ⟨fun hs => h'.sealed (h.sealed hs), h.signers.trans h'.signers⟩

theorem Grows.keeps {h h' : Heap σ κ} (hg : Grows h h') : Keeps h h' := by
  refine ⟨fun hs => hs.grows hg, [], ?_⟩
  rw [List.append_nil, hg.signers]

theorem Keeps.getElem? {h h' : Heap σ κ} (hk : Keeps h h') {j : Nat} {o : SignerObject σ κ}
    (ho : h.signers[j]? = some o) : h'.signers[j]? = some o := by
  obtain ⟨more, hmore⟩ := hk.signers
  obtain ⟨hj, _⟩ := List.getElem?_eq_some_iff.1 ho
  rw [← hmore, List.getElem?_append_left hj, ho]

/-- What a method gives is new, so a caller may get it. -/
theorem keeps_of_mints {h : Heap σ κ} {m : Method σ κ α} {Q : α → Prop} {f : α → Method σ κ Unit}
    (hm : Mints h.lists.length m Q) (hsigners : ∀ a h', (f a h').2.signers = h'.signers)
    (hf : ∀ a h', Q a → h'.Sealed → (∀ o ∈ h'.signers, o.certs < h.lists.length) →
      (f a h').2.Sealed) :
    Keeps h ((m >>= f) h).2 := by
  obtain ⟨hgrows, hQ⟩ := hm h (Nat.le_refl _)
  rw [bind_apply]
  rcases hrun : m h with ⟨r, h'⟩
  rw [hrun] at hgrows hQ
  cases r with
  | error e => exact hgrows.keeps
  | ok a =>
      refine ⟨?_, [], ?_⟩
      · intro hs
        refine hf a h' (hQ a rfl) (hs.grows hgrows) ?_
        intro o ho
        rw [hgrows.signers] at ho
        exact hs.certs_lt ho
      · exact (List.append_nil _).trans ((hsigners a h').trans hgrows.signers).symm

theorem keeps_discard {h : Heap σ κ} {m : Method σ κ α} {Q : α → Prop}
    (hm : Mints h.lists.length m Q) : Keeps h ((do let _ ← m : Method σ κ Unit) h).2 :=
  keeps_of_mints hm (fun _ _ => rfl) fun _ _ _ hs _ => hs

/-- A copy of a signer refers to the same list, which stays with signers. -/
theorem keeps_withOcsp (j : Nat) (response : Bytes) (h : Heap σ κ) :
    Keeps h (Method.withOcsp j response h).2 := by
  cases ho : h.signers[j]? with
  | none =>
      rw [withOcsp_of_none ho]
      exact .refl h
  | some o =>
      have hmem : o ∈ h.signers := List.mem_of_getElem? ho
      rw [withOcsp_of_some ho]
      cases acceptOcsp response o.parts.chain.own.serial with
      | error f => exact ⟨fun hs => hs.addSigner hmem rfl rfl, List.prefix_append _ _⟩
      | ok accepted => exact ⟨fun hs => hs.addSigner hmem rfl rfl, List.prefix_append _ _⟩

/-- A caller changes a list that is not that of a signer. -/
theorem keeps_change {h : Heap σ κ} {found : Option α} (place : α → Nat) (content : List Bytes)
    (hfound : h.Sealed → ∀ a, found = some a → ∀ o ∈ h.signers, place a ≠ o.certs) :
    Keeps h ((do Method.setList (place (← Method.found found)) content : Method σ κ Unit) h).2 := by
  cases hf : found with
  | none => exact .refl h
  | some a =>
      exact ⟨fun hs => hs.setList content (hfound hs a hf), List.prefix_refl _⟩

/-- **Callers do not get at the lists of signers**, and do not change signers. -/
theorem keeps_method (command : Command) (h : Heap σ κ) : Keeps h (command.method h).2 := by
  cases command with
  | certs j =>
      refine keeps_of_mints (mints_certs j) (fun _ _ => rfl) ?_
      intro r h' hr hs hlt
      exact hs.hold fun o ho => Nat.ne_of_gt (Nat.lt_of_lt_of_le (hlt o ho) hr)
  | sign j data => exact keeps_discard (mints_use j _)
  | signClaim j data => exact keeps_discard (mints_use j _)
  | signInWorker j data => exact keeps_discard (mints_use j _)
  | gatherIn j order claims => exact keeps_discard (mints_use j _)
  | withOcsp j response =>
      have hkeeps := keeps_withOcsp j response h
      rw [Command.method, bind_apply]
      rcases hrun : Method.withOcsp j response h with ⟨r, h'⟩
      rw [hrun] at hkeeps
      cases r <;> exact hkeeps
  | signBytes j data =>
      refine keeps_of_mints (mints_signBytes j data) (fun _ _ => rfl) ?_
      intro c h' hc hs hlt
      exact hs.holdClaim fun o ho => Nat.ne_of_gt (Nat.lt_of_lt_of_le (hlt o ho) hc)
  | signFile j claim signature =>
      refine keeps_of_mints (mints_signFile j claim signature) (fun _ _ => rfl) ?_
      intro c h' hc hs hlt
      exact hs.holdClaim fun o ho => Nat.ne_of_gt (Nat.lt_of_lt_of_le (hlt o ho) hc)
  | change k content =>
      refine keeps_change id content ?_
      intro hs r hr o ho
      exact hs.held o ho r (List.mem_of_getElem? hr)
  | changeClaim k content =>
      refine keeps_change ClaimObject.certs content ?_
      intro hs c hc o ho
      exact hs.claims o ho c (List.mem_of_getElem? hc)

theorem keeps_run (commands : List Command) (h : Heap σ κ) : Keeps h (run commands h) := by
  induction commands generalizing h with
  | nil => exact .refl h
  | cons command commands ih => exact (keeps_method command h).trans (ih _)

/-! ### What signers answer -/

theorem content_of_some {r : Nat} {h : Heap σ κ} {content : List Bytes}
    (hr : h.lists[r]? = some content) : Method.content r h = (.ok content, h) := by
  rw [Method.content]
  show Method.found h.lists[r]? h = _
  rw [hr]
  rfl

theorem ask_of_some {j : Nat} {h : Heap σ κ} {o : SignerObject σ κ} (ho : h.signers[j]? = some o)
    (answer : SignerObject σ κ → α) :
    (do return answer (← Method.signer j) : Method σ κ α) h = (.ok (answer o), h) := by
  rw [bind_apply, signer_of_some ho]
  rfl

theorem certs_of_some {j : Nat} {h : Heap σ κ} {o : SignerObject σ κ} {content : List Bytes}
    (ho : h.signers[j]? = some o) (hr : h.lists[o.certs]? = some content) :
    Method.certs j h = (.ok h.lists.length, { h with lists := h.lists ++ [content] }) := by
  rw [Method.certs, bind_apply, signer_of_some ho]
  dsimp only
  rw [bind_apply, content_of_some hr]
  rfl

/-- A heap with one more list. -/
def addList (h : Heap σ κ) (content : List Bytes) : Heap σ κ :=
  { h with lists := h.lists ++ [content] }

theorem addList_getElem? (h : Heap σ κ) (content : List Bytes) :
    (h.addList content).lists[h.lists.length]? = some content := List.getElem?_concat_length

/-- If callers have not got the list of a signer, it answers what it was made of. -/
theorem Sealed.view_of_some {h : Heap σ κ} (hs : h.Sealed) {j : Nat} {o : SignerObject σ κ}
    (ho : h.signers[j]? = some o) : h.view j = .ok o.parts.view := by
  have ho' : (h.addList o.parts.certs).signers[j]? = some o := ho
  have hcerts := hs.lists o (List.mem_of_getElem? ho)
  have hrun : Method.view j h = (.ok o.parts.view, h.addList o.parts.certs) := by
    refine bind_eq_ok_iff.2 ⟨_, h, ask_of_some ho _, ?_⟩
    refine bind_eq_ok_iff.2 ⟨_, _, certs_of_some ho hcerts, ?_⟩
    refine bind_eq_ok_iff.2 ⟨_, _, content_of_some (addList_getElem? _ _), ?_⟩
    refine bind_eq_ok_iff.2 ⟨_, _, ask_of_some ho' _, ?_⟩
    refine bind_eq_ok_iff.2 ⟨_, _, ask_of_some ho' _, ?_⟩
    exact bind_eq_ok_iff.2 ⟨_, _, ask_of_some ho' _, rfl⟩
  rw [view, hrun]

theorem lift_apply (o : Operation σ α) (h : Heap σ κ) :
    Method.lift o h = ((o h.world).1, { h with world := (o h.world).2 }) := rfl

theorem use_of_some {j : Nat} {h : Heap σ κ} {o : SignerObject σ κ} (ho : h.signers[j]? = some o)
    (work : SignerObject σ κ → Operation σ α) :
    (do Method.lift (work (← Method.signer j)) : Method σ κ α) h = Method.lift (work o) h := by
  rw [bind_apply, signer_of_some ho]

/-- A signer signs as what it was made of does, and the certificates go to a list of their own. -/
theorem Sealed.signBytes_of_some {h : Heap σ κ} (hs : h.Sealed) {j : Nat} {o : SignerObject σ κ}
    (ho : h.signers[j]? = some o) (data : Bytes) :
    Method.signBytes j data h = Method.lift (do
      return .of (← Config.signBytes ⟨o.parts.toSigner⟩ data) h.lists.length)
        (h.addList o.parts.certs) := by
  have hcerts := hs.lists o (List.mem_of_getElem? ho)
  have hadded : (h.addList o.parts.certs).signers[j]? = some o := ho
  rw [Method.signBytes, bind_apply, Method.reserveSize, ask_of_some ho]
  dsimp only
  rw [bind_apply, certs_of_some ho hcerts]
  show (Method.alg j >>= _) (h.addList o.parts.certs) = _
  rw [bind_apply, Method.alg, ask_of_some hadded]
  dsimp only
  rw [bind_apply, Method.signClaim, use_of_some hadded, lift_apply, lift_apply, bind_apply,
    KeySigner.signBytes_apply]
  rcases o.parts.toSigner.signClaim data (h.addList o.parts.certs).world with ⟨r, w'⟩
  have hsigned :
      ({ h.addList o.parts.certs with world := w' } : Heap σ κ).signers[j]? = some o := ho
  cases r with
  | error f => rfl
  | ok signature =>
      dsimp only
      rw [bind_apply, Method.timeAuthorityUrl, ask_of_some hsigned]
      dsimp only
      rw [bind_apply, Method.ocspVal, ask_of_some hsigned]
      rfl

/-! ### Signing as operations do -/

/-- A method does to the world what an operation does, and what it gives is made of what that
gives. -/
def Does (h : Heap σ κ) (m : Method σ κ α) (o : Operation σ β) (result : β → α) : Prop :=
  (m h).1 = (o h.world).1.map result ∧ (m h).2.world = (o h.world).2

theorem does_lift (o : Operation σ α) (h : Heap σ κ) : h.Does (Method.lift o) o id := by
  refine ⟨?_, rfl⟩
  rw [lift_apply]
  cases (o h.world).1 <;> rfl

theorem Does.bind {h : Heap σ κ} {m : Method σ κ α} {o : Operation σ β} {result : β → α}
    {f : α → Method σ κ α'} {g : β → Operation σ β'} {result' : β' → α'} (hm : h.Does m o result)
    (hf : ∀ b, (m h).2.Does (f (result b)) (g b) result') : h.Does (m >>= f) (o >>= g) result' := by
  obtain ⟨hgives, hworld⟩ := hm
  rw [Does, bind_apply, bind_apply]
  rcases hrun : m h with ⟨r, h'⟩
  rcases ho : o h.world with ⟨r', w'⟩
  rw [hrun] at hf
  rw [hrun, ho] at hgives hworld
  obtain rfl : h'.world = w' := hworld
  obtain rfl : r = r'.map result := hgives
  cases r' with
  | error f => exact ⟨rfl, rfl⟩
  | ok b => exact hf b

/-- A signer signs a claim as what it was made of does. -/
theorem Sealed.does_signBytes {h : Heap σ κ} (hs : h.Sealed) {j : Nat} {o : SignerObject σ κ}
    (ho : h.signers[j]? = some o) (data : Bytes) :
    h.Does (Method.signBytes j data) (Config.signBytes ⟨o.parts.toSigner⟩ data)
      (.of · h.lists.length) := by
  rw [Does, hs.signBytes_of_some ho, lift_apply, bind_apply]
  show _ = Except.map _ (Config.signBytes _ data (h.addList o.parts.certs).world).1 ∧
    _ = (Config.signBytes _ data (h.addList o.parts.certs).world).2
  rcases Config.signBytes ⟨o.parts.toSigner⟩ data (h.addList o.parts.certs).world with ⟨r, w'⟩
  cases r <;> exact ⟨rfl, rfl⟩

/-- A claim in a file, too, is signed as what the signer was made of signs it. -/
theorem Sealed.does_signFile {h : Heap σ κ} (hs : h.Sealed) {j : Nat} {o : SignerObject σ κ}
    (ho : h.signers[j]? = some o) (claim signature : PathArg) :
    h.Does (Method.signFile j claim signature) (Config.sign ⟨o.parts.toSigner⟩ claim signature)
      (.of · h.lists.length) := by
  refine (does_lift _ h).bind fun p => ?_
  refine (does_lift _ _).bind fun data => ?_
  have hbytes : ∀ w, Does { h with world := w } (Method.signBytes j data)
      (Config.signBytes ⟨o.parts.toSigner⟩ data) (.of · h.lists.length) := by
    intro w
    have hread : Sealed { h with world := w } := ⟨hs.lists, hs.held, hs.claims⟩
    exact hread.does_signBytes ho data
  refine (hbytes _).bind fun signed => ?_
  refine (does_lift _ _).bind fun q => ?_
  refine (does_lift _ _).bind fun _ => ?_
  refine (does_lift _ _).bind fun _ => ?_
  exact ⟨rfl, rfl⟩

/-! ### Copies with a revocation response -/

/-- A copy that is given out carries the response, and refers to what the signer refers to. -/
theorem exists_of_withOcsp {h h' : Heap σ κ} {j t : Nat} {response : Bytes}
    (hrun : Method.withOcsp j response h = (.ok t, h')) :
    ∃ o, h.signers[j]? = some o ∧
      o.parts.withOcsp response = .ok (o.withResponse response).parts ∧
      h' = { h with signers := h.signers ++ [o.withResponse response] } ∧
      h'.signers[t]? = some (o.withResponse response) := by
  cases ho : h.signers[j]? with
  | none =>
      rw [withOcsp_of_none ho] at hrun
      exact absurd hrun error_ne_ok
  | some o =>
      rw [withOcsp_of_some ho] at hrun
      cases haccept : acceptOcsp response o.parts.chain.own.serial with
      | error f =>
          rw [haccept] at hrun
          exact absurd hrun error_ne_ok
      | ok accepted =>
          obtain rfl := eq_of_acceptOcsp haccept
          rw [haccept] at hrun
          obtain ⟨rfl, rfl⟩ := ok_eq_ok_iff.1 hrun
          exact ⟨o, rfl, KeySigner.withOcsp_eq_ok_iff.2 ⟨haccept, rfl⟩, rfl,
            List.getElem?_concat_length⟩

/-- **Signers do not change.**  Whatever callers do with a signer, with copies of it, with the lists
that they have got and with signed claims, failures included: the signer answers what it was made
of, and every copy answers later what it answered before.  A copy with a revocation response answers
as the signer does but for the response, which is the one that was given; it also signs as the
signer does. -/
theorem signers_immutable (s : KeySigner σ κ) (w : World σ) (before : List Command) :
    (run before (start s w)).view 0 = .ok s.view ∧
    (∀ j, j < (run before (start s w)).signers.length →
      ∃ v, (run before (start s w)).view j = .ok v ∧
        ∀ after, (run after (run before (start s w))).view j = .ok v) ∧
    ∀ j response t h', Method.withOcsp j response (run before (start s w)) = (.ok t, h') →
      ∃ v, (run before (start s w)).view j = .ok v ∧
        ∀ after, (run after h').view j = .ok v ∧
          (run after h').view t = .ok { v with ocspVal := some response } ∧
          ∀ data, Method.sign t data (run after h') = Method.sign j data (run after h') ∧
            Method.signClaim t data (run after h') = Method.signClaim j data (run after h') := by
  have hkeeps := keeps_run before (start s w)
  have hsealed := hkeeps.sealed (sealed_start s w)
  refine ⟨?original, ?kept, ?copied⟩
  case original =>
    have hzero : (run before (start s w)).signers[0]? = some ⟨s, 0⟩ := by
      obtain ⟨more, hmore⟩ := hkeeps.signers
      rw [← hmore]
      rfl
    exact hsealed.view_of_some hzero
  case kept =>
    intro j hj
    have ho := List.getElem?_eq_getElem hj
    refine ⟨_, hsealed.view_of_some ho, ?_⟩
    intro after
    have hafter := keeps_run after (run before (start s w))
    exact (hafter.sealed hsealed).view_of_some (hafter.getElem? ho)
  case copied =>
    intro j response t h' hrun
    obtain ⟨o, ho, _, hh', ht⟩ := exists_of_withOcsp hrun
    have hcopied := keeps_withOcsp j response (run before (start s w))
    rw [hrun] at hcopied
    refine ⟨_, hsealed.view_of_some ho, ?_⟩
    intro after
    have hafter := keeps_run after h'
    have hlast := hafter.sealed (hcopied.sealed hsealed)
    have hj := hafter.getElem? (hcopied.getElem? ho)
    have ht := hafter.getElem? ht
    refine ⟨hlast.view_of_some hj, hlast.view_of_some ht, ?_⟩
    intro data
    rw [Method.sign, Method.sign, Method.signClaim, Method.signClaim, use_of_some hj,
      use_of_some ht, use_of_some hj, use_of_some ht]
    exact ⟨rfl, rfl⟩

/-- A caller has emptied the lists that it could get from the sample, and has offered a response to
it that is not accepted. -/
def sample : Heap Unit Nat :=
  run [.certs 0, .change 0 [], .signBytes 0 [1], .changeClaim 0 [],
      .withOcsp 0 (KeySigner.Sample.response 301)]
    (start KeySigner.Sample.signer KeySigner.Sample.world)

/-- The sample keeps its answers, and a copy with a response answers as it does but for that. -/
theorem signers_immutable_sample :
    sample.view 0 = .ok KeySigner.Sample.signer.view ∧
    (∃ v, sample.view 1 = .ok v) ∧
    ∃ (t : Nat) (h' : Heap Unit Nat) (v : View),
      Method.withOcsp 0 (KeySigner.Sample.response 300) sample = (.ok t, h') ∧
        (run [.certs t, .change 1 []] h').view t =
          .ok { v with ocspVal := some (KeySigner.Sample.response 300) } := by
  obtain ⟨horiginal, hkept, hcopied⟩ :=
    signers_immutable KeySigner.Sample.signer KeySigner.Sample.world
      [.certs 0, .change 0 [], .signBytes 0 [1], .changeClaim 0 [],
        .withOcsp 0 (KeySigner.Sample.response 301)]
  have hone : 1 < sample.signers.length := by decide
  obtain ⟨v, hv, _⟩ := hkept 1 hone
  have hcopy := hcopied 0 (KeySigner.Sample.response 300) 2 _ rfl
  obtain ⟨v', _, hcopy⟩ := hcopy
  exact ⟨horiginal, ⟨v, hv⟩, 2, _, v', rfl, (hcopy [.certs 2, .change 1 []]).2.1⟩

/-- The lists that were given away are empty, and that of the signer is not. -/
example : sample.lists = [KeySigner.Sample.signer.certs, [], []] := by
  rfl

end Heap

end ClaimSeal

import ClaimSeal.Proofs.KeySigner.Invariant

/-!
**The order of certificates.**

A signer may be given its certificates in any order, as long as the public keys of all of them can
be loaded: two orders of the same certificates give signers that show the same, save for the order
of the certificates before the last one, or both are refused.  A certificate whose public key cannot
be loaded is refused only where the search for the signer's own certificate comes past it.  Behind
that one it is never looked at, and the order matters.

Main definitions:

* `AtMostOneHolds` — no two certificates hold a given key;
* `Leads` — a certificate with a given key stands ahead of all that cannot be loaded;
* `KeySigner.SameButOrder`, `KeySigner.Agree` — signers and outcomes that go together.

Main results:

* `exists_orderChain_iff` — when a chain can be ordered;
* `orderChain_perm` — two orders of a chain;
* `KeySigner.agree_iff_of_perm` — **when the order does not matter**;
* `KeySigner.not_forall_agree_of_perm` — it may matter.
-/

set_option autoImplicit false

namespace ClaimSeal

open Run

variable {σ κ : Type}

/-! ### Certificates with one key -/

/-- No two of the certificates hold a given key. -/
def AtMostOneHolds (key : κ) (certs : List (Certificate κ)) : Prop :=
  certs.Pairwise fun c d => ¬(c.publicKey = .ok key ∧ d.publicKey = .ok key)

/-- Two certificates with the key are one and the same. -/
theorem AtMostOneHolds.eq {key : κ} {certs : List (Certificate κ)} (h : AtMostOneHolds key certs)
    {c d : Certificate κ} (hc : c ∈ certs) (hd : d ∈ certs) (hck : c.publicKey = .ok key)
    (hdk : d.publicKey = .ok key) : c = d := by
  induction certs with
  | nil => cases hc
  | cons a certs ih =>
      obtain ⟨ha, hrest⟩ := List.pairwise_cons.1 h
      rcases List.mem_cons.1 hc with rfl | hc'
      · rcases List.mem_cons.1 hd with rfl | hd'
        · rfl
        · exact absurd ⟨hck, hdk⟩ (ha d hd')
      · rcases List.mem_cons.1 hd with rfl | hd'
        · exact absurd ⟨hdk, hck⟩ (ha c hc')
        · exact ih hrest hc' hd'

/-! ### When a chain can be ordered -/

/-- A certificate with a given key stands ahead of all those whose key cannot be loaded. -/
def Leads (key : κ) (certs : List (Certificate κ)) : Prop :=
  ∃ front own back, certs = front ++ own :: back ∧ own.publicKey = .ok key ∧
    ∀ c ∈ front, ∃ k, c.publicKey = .ok k

/-- The search comes to a certificate with the key if it leads. -/
theorem exists_orderChain_iff [DecidableEq κ] {key : κ} {certs : List (Certificate κ)} :
    (∃ chain, orderChain key certs = .ok chain) ↔ Leads key certs := by
  constructor
  · rintro ⟨chain, h⟩
    obtain ⟨front, back, rfl, _, hown, hfront⟩ := orderChain_eq_ok_iff.1 h
    refine ⟨front, chain.own, back, rfl, hown, ?_⟩
    intro c hc
    obtain ⟨k, hk, _⟩ := hfront c hc
    exact ⟨k, hk⟩
  · rintro ⟨front, own, back, rfl, hown, hfront⟩
    -- the first certificate that holds no other key is the own one or stands before it
    rcases Certificate.exists_first key front with
      hall | ⟨front', c, back', rfl, hfront', hc | ⟨why, hc⟩⟩
    · exact ⟨_, orderChain_of_matched hall hown⟩
    · rw [List.append_assoc, List.cons_append]
      exact ⟨_, orderChain_of_matched hfront' hc⟩
    · obtain ⟨k, hk⟩ := hfront c (by simp)
      rw [hc] at hk
      cases hk

/-- If all keys can be loaded it does not matter where the certificate stands. -/
theorem leads_iff_of_forall {key : κ} {certs : List (Certificate κ)}
    (h : ∀ c ∈ certs, ∃ k, c.publicKey = .ok k) :
    Leads key certs ↔ ∃ own ∈ certs, own.publicKey = .ok key := by
  constructor
  · rintro ⟨front, own, back, rfl, hown, _⟩
    exact ⟨own, by simp, hown⟩
  · rintro ⟨own, hmem, hown⟩
    obtain ⟨front, back, rfl⟩ := List.append_of_mem hmem
    exact ⟨front, own, back, rfl, hown, fun c hc => h c (List.mem_append_left _ hc)⟩

/-- A certificate that cannot be loaded keeps the search from those behind it. -/
theorem not_leads_of_unloadable [DecidableEq κ] {key : κ} {front back : List (Certificate κ)}
    {c : Certificate κ} (hc : ∀ k, c.publicKey ≠ .ok k)
    (hfront : ∀ d ∈ front, d.publicKey ≠ .ok key) : ¬ Leads key (front ++ c :: back) := by
  rw [← exists_orderChain_iff]
  rintro ⟨chain, hchain⟩
  rcases Certificate.exists_first key front with
    hall | ⟨front', d, back', rfl, hfront', hd | ⟨why, hd⟩⟩
  · cases hwhy : c.publicKey with
    | ok k => exact hc k hwhy
    | error why =>
        rw [orderChain_of_unloadable hall hwhy] at hchain
        cases hchain
  · exact hfront d (by simp) hd
  · -- another one before it cannot be loaded either
    rw [List.append_assoc, List.cons_append, orderChain_of_unloadable hfront' hd] at hchain
    cases hchain

/-! ### Two orders of one chain -/

/-- In two orders of the same certificates the same one is set apart, from the same others. -/
theorem orderChain_perm [DecidableEq κ] {key : κ} {certs certs' : List (Certificate κ)}
    {chain chain' : Chain κ} (hperm : certs.Perm certs') (honce : AtMostOneHolds key certs)
    (h : orderChain key certs = .ok chain) (h' : orderChain key certs' = .ok chain') :
    chain.own = chain'.own ∧ chain.others.Perm chain'.others := by
  obtain ⟨front, back, hcerts, hothers, hown, _⟩ := orderChain_eq_ok_iff.1 h
  obtain ⟨front', back', hcerts', hothers', hown', _⟩ := orderChain_eq_ok_iff.1 h'
  have hchain : certs.Perm (chain.own :: chain.others) := by
    rw [hcerts, hothers]
    exact List.perm_middle
  have hchain' : certs'.Perm (chain'.own :: chain'.others) := by
    rw [hcerts', hothers']
    exact List.perm_middle
  have heq : chain.own = chain'.own :=
    honce.eq (hchain.mem_iff.2 List.mem_cons_self)
      ((hperm.trans hchain').mem_iff.2 List.mem_cons_self) hown hown'
  refine ⟨heq, ?_⟩
  have hsame := hchain.symm.trans (hperm.trans hchain')
  rw [heq] at hsame
  exact hsame.cons_inv

/-! ### What is the fault of a certificate -/

/-- Where the public key cannot be loaded it is the fault of the certificate. -/
def Certificate.TakesBlame (c : Certificate κ) : Prop :=
  ∀ f, c.publicKey = .error (some f) → isKeyFault f = true

theorem exists_publicKeyFailure {c : Certificate κ} {why : Option Fault} (hc : c.TakesBlame)
    (h : c.publicKey = .error why) (index : Nat) :
    ∃ e, publicKeyFailure index why = .credential e := by
  cases why with
  | none => exact ⟨_, rfl⟩
  | some f =>
      rw [publicKeyFailure, if_pos (hc f h)]
      exact ⟨_, rfl⟩

/-- If it is the fault of the certificates, a chain that cannot be ordered is a matter of unusable
credentials. -/
theorem exists_credential_of_orderChain [DecidableEq κ] {key : κ} {certs : List (Certificate κ)}
    {f : Failure} (hblame : ∀ c ∈ certs, c.TakesBlame) (h : orderChain key certs = .error f) :
    ∃ e, f = .credential e := by
  rcases orderChain_eq_error_iff.1 h with ⟨rfl, _⟩ | ⟨front, c, back, why, rfl, _, hc, rfl⟩
  · exact ⟨_, rfl⟩
  · exact exists_publicKeyFailure (hblame c (by simp)) hc _

namespace KeySigner

/-- So is a signer that is not built, as long as no revocation response comes with it. -/
theorem exists_credential_of_assemble [DecidableEq κ] {key : PrivateKey σ κ}
    {certs : List (Certificate κ)} {alg : Algorithm} {tsaUrl : Option Text} {f : Failure}
    (hblame : ∀ c ∈ certs, c.TakesBlame) (h : assemble key certs alg tsaUrl none = .error f) :
    ∃ e, f = .credential e := by
  rcases assemble_eq_error_iff.1 h with ⟨e, _, rfl⟩ | ⟨_, hchain | ⟨_, _, _, hresponse, _⟩⟩
  · exact ⟨e, rfl⟩
  · exact exists_credential_of_orderChain hblame hchain
  · cases hresponse

/-! ### Outcomes that go together -/

/-- Two signers show the same, save for the order of the certificates before the last one. -/
structure SameButOrder (s s' : KeySigner σ κ) : Prop where
  own : s.chain.own = s'.chain.own
  others : s.chain.others.Perm s'.chain.others
  last : s.certs.getLast? = s'.certs.getLast?
  certs : s.certs.Perm s'.certs
  reserveSize : s.reserveSize = s'.reserveSize
  rest : s' = { s with chain := s'.chain }

/-- What two builds give: signers that show the same save for that order, and the same log; or
both times the credentials are refused, and nothing is logged. -/
inductive Agree (w : World σ) : (r r' : Except Failure (KeySigner σ κ) × World σ) → Prop
  | built {s s' : KeySigner σ κ} {w' : World σ} (h : s.SameButOrder s') :
      Agree w (.ok s, w') (.ok s', w')
  | refused {e e' : CredentialError} :
      Agree w (.error (.credential e), w) (.error (.credential e'), w)

theorem SameButOrder.of_perm {s s' : KeySigner σ κ} (hown : s.chain.own = s'.chain.own)
    (hothers : s.chain.others.Perm s'.chain.others) (hrest : s' = { s with chain := s'.chain }) :
    s.SameButOrder s' := by
  have hcerts : s.certs.Perm s'.certs := by
    rw [KeySigner.certs, KeySigner.certs, hown]
    exact (hothers.map _).append_right _
  have htime : s.usesTimeAuthority = s'.usesTimeAuthority := by rw [hrest]; rfl
  exact {
    own := hown
    others := hothers
    last := by simp [KeySigner.certs, hown]
    certs := hcerts
    reserveSize := by
      rw [KeySigner.reserveSize, KeySigner.reserveSize, hcerts.flatten.length_eq, htime]
    rest := hrest }

/-- What is logged about a signer does not depend on that order. -/
theorem SameButOrder.loadedLine_eq {s s' : KeySigner σ κ} (h : s.SameButOrder s') :
    s.loadedLine = s'.loadedLine := by
  have halg : s.alg = s'.alg := by rw [h.rest]
  rw [loadedLine, loadedLine, halg, h.certs.length_eq, h.reserveSize]

/-! ### Building from two orders -/

/-- A signer is built if the key fits and its certificate leads; else the credentials are
refused. -/
theorem build_cases [DecidableEq κ] {key : PrivateKey σ κ} {certs : List (Certificate κ)}
    (hblame : ∀ c ∈ certs, c.TakesBlame) (alg : Algorithm) (tsaUrl : Option Text) (w : World σ) :
    ((alg.Fits key.family ∧ Leads key.publicKey certs) ∧
      ∃ s : KeySigner σ κ, orderChain key.publicKey certs = .ok s.chain ∧
        s = ⟨key, alg, tsaUrl, s.chain, none⟩ ∧
        build key certs alg tsaUrl none w =
          (.ok s, { w with log := w.log ++ [⟨.debug, s.loadedLine⟩] })) ∨
    (¬(alg.Fits key.family ∧ Leads key.publicKey certs) ∧
      ∃ e, build key certs alg tsaUrl none w = (.error (.credential e), w)) := by
  rw [build_apply]
  cases hassemble : assemble key certs alg tsaUrl none with
  | ok s =>
      obtain ⟨hfits, chain, hchain, rfl, _⟩ := assemble_eq_ok_iff.1 hassemble
      exact .inl ⟨⟨hfits, exists_orderChain_iff.1 ⟨chain, hchain⟩⟩, _, hchain, rfl, rfl⟩
  | error f =>
      right
      constructor
      · rintro ⟨hfits, hleads⟩
        obtain ⟨chain, hchain⟩ := exists_orderChain_iff.2 hleads
        rw [assemble_eq_ok_iff.2 ⟨hfits, chain, hchain, rfl, fun _ h => by cases h⟩] at hassemble
        cases hassemble
      · obtain ⟨e, rfl⟩ := exists_credential_of_assemble hblame hassemble
        exact ⟨e, rfl⟩

/-- **The order of the certificates does not matter exactly if** the signer's own certificate leads
in both orders or in none.  So it does not matter if all public keys can be loaded.  A certificate
whose public key cannot be loaded is refused unless the signer's own one stands before it. -/
theorem agree_iff_of_perm [DecidableEq κ] {key : PrivateKey σ κ}
    {certs certs' : List (Certificate κ)} (hperm : certs.Perm certs')
    (honce : AtMostOneHolds key.publicKey certs)
    (hblame : ∀ c ∈ certs, c.TakesBlame) (alg : Algorithm) (tsaUrl : Option Text) (w : World σ) :
    (Agree w (build key certs alg tsaUrl none w) (build key certs' alg tsaUrl none w) ↔
      (alg.Fits key.family → (Leads key.publicKey certs ↔ Leads key.publicKey certs'))) ∧
    ((∀ c ∈ certs, ∃ k, c.publicKey = .ok k) →
      Agree w (build key certs alg tsaUrl none w) (build key certs' alg tsaUrl none w)) ∧
    ∀ front c back, certs' = front ++ c :: back → (∀ k, c.publicKey ≠ .ok k) →
      (∀ d ∈ front, d.publicKey ≠ .ok key.publicKey) →
      ∃ e, build key certs' alg tsaUrl none w = (.error (.credential e), w) := by
  have hblame' : ∀ c ∈ certs', c.TakesBlame := fun c hc => hblame c (hperm.mem_iff.2 hc)
  have hiff : Agree w (build key certs alg tsaUrl none w) (build key certs' alg tsaUrl none w) ↔
      (alg.Fits key.family → (Leads key.publicKey certs ↔ Leads key.publicKey certs')) := by
    rcases build_cases hblame alg tsaUrl w with
      ⟨⟨hfits, hleads⟩, s, hchain, hs, hbuild⟩ | ⟨hnot, e, hbuild⟩
    · rcases build_cases hblame' alg tsaUrl w with
        ⟨⟨_, hleads'⟩, s', hchain', hs', hbuild'⟩ | ⟨hnot', e', hbuild'⟩
      · obtain ⟨hown, hothers⟩ := orderChain_perm hperm honce hchain hchain'
        have hsame : s.SameButOrder s' := .of_perm hown hothers (by rw [hs, hs'])
        rw [hbuild, hbuild', hsame.loadedLine_eq]
        exact ⟨fun _ _ => ⟨fun _ => hleads', fun _ => hleads⟩, fun _ => .built hsame⟩
      · rw [hbuild, hbuild']
        constructor
        · intro h
          cases h
        · intro h
          exact absurd ⟨hfits, (h hfits).1 hleads⟩ hnot'
    · rcases build_cases hblame' alg tsaUrl w with
        ⟨⟨hfits, hleads'⟩, s', hchain', hs', hbuild'⟩ | ⟨hnot', e', hbuild'⟩
      · rw [hbuild, hbuild']
        constructor
        · intro h
          cases h
        · intro h
          exact absurd ⟨hfits, (h hfits).2 hleads'⟩ hnot
      · rw [hbuild, hbuild']
        constructor
        · intro _ hfits
          exact ⟨fun h => absurd ⟨hfits, h⟩ hnot, fun h => absurd ⟨hfits, h⟩ hnot'⟩
        · intro _
          exact .refused
  refine ⟨hiff, ?_, ?_⟩
  · intro hload
    refine hiff.2 fun _ => ?_
    have hload' : ∀ c ∈ certs', ∃ k, c.publicKey = .ok k := fun c hc => hload c (hperm.mem_iff.2 hc)
    rw [leads_iff_of_forall hload, leads_iff_of_forall hload']
    exact exists_congr fun c => and_congr_left fun _ => hperm.mem_iff
  · rintro front c back rfl hc hfront
    rcases build_cases hblame' alg tsaUrl w with ⟨⟨_, hleads⟩, _⟩ | ⟨_, he⟩
    · exact absurd hleads (not_leads_of_unloadable hc hfront)
    · exact he

/-! ### Orders to try it on -/

namespace Sample

/-- A certificate whose public key cannot be loaded. -/
def spoilt : Certificate Nat :=
  ⟨.error (some ⟨.value, [.json (.str (txt "bad point"))]⟩), 302, [6]⟩

/-- The certificates of the sample, and one that cannot be loaded at the end. -/
def spoiltLast : List (Certificate Nat) := certificates ++ [spoilt]

/-- Those of the sample the other way round. -/
def swapped : List (Certificate Nat) := certificates.reverse ++ [spoilt]

theorem swapped_perm : spoiltLast.Perm swapped :=
  (List.reverse_perm certificates).symm.append_right _

theorem takesBlame_of_mem : ∀ c ∈ spoiltLast, c.TakesBlame := by
  intro c hc f hf
  simp only [spoiltLast, certificates, List.cons_append, List.nil_append, List.mem_cons,
    List.not_mem_nil, or_false] at hc
  rcases hc with rfl | rfl | rfl
  · cases hf
  · cases hf
  · cases hf
    rfl

theorem atMostOneHolds_spoiltLast : AtMostOneHolds key.publicKey spoiltLast := by
  simp [AtMostOneHolds, spoiltLast, certificates, spoilt, key]

theorem leads_spoiltLast : Leads key.publicKey spoiltLast :=
  ⟨[], _, _, rfl, rfl, by simp⟩

theorem leads_swapped : Leads key.publicKey swapped :=
  ⟨[⟨.ok 8, 301, [4, 5]⟩], _, _, rfl, rfl, by simp⟩

end Sample

/-- The signer's own certificate leads in both orders, so they give signers that show the same. -/
theorem agree_iff_of_perm_sample :
    Sample.spoiltLast.Perm Sample.swapped ∧
      AtMostOneHolds Sample.key.publicKey Sample.spoiltLast ∧
      (∀ c ∈ Sample.spoiltLast, c.TakesBlame) ∧
      Agree Sample.world
        (build Sample.key Sample.spoiltLast .es256 (some (txt "http://tsa")) none Sample.world)
        (build Sample.key Sample.swapped .es256 (some (txt "http://tsa")) none Sample.world) := by
  have hiff := (agree_iff_of_perm Sample.swapped_perm Sample.atMostOneHolds_spoiltLast
    Sample.takesBlame_of_mem .es256 (some (txt "http://tsa")) Sample.world).1
  refine ⟨Sample.swapped_perm, Sample.atMostOneHolds_spoiltLast, Sample.takesBlame_of_mem, ?_⟩
  exact hiff.2 fun _ => ⟨fun _ => Sample.leads_swapped, fun _ => Sample.leads_spoiltLast⟩

/-- The order may matter: a certificate that cannot be loaded is refused at the front, but behind
the one of the signer it is never looked at. -/
theorem not_forall_agree_of_perm :
    ¬ ∀ (σ κ : Type) [DecidableEq κ] (key : PrivateKey σ κ) (certs certs' : List (Certificate κ))
      (alg : Algorithm) (tsaUrl : Option Text) (w : World σ), certs.Perm certs' →
      AtMostOneHolds key.publicKey certs → (∀ c ∈ certs, c.TakesBlame) →
      Agree w (build key certs alg tsaUrl none w) (build key certs' alg tsaUrl none w) := by
  intro hforall
  have hagree := hforall Unit Nat Sample.key Sample.spoiltLast Sample.spoiltLast.reverse .es256
    none Sample.world (List.reverse_perm _).symm Sample.atMostOneHolds_spoiltLast
    Sample.takesBlame_of_mem
  have hbuilt : ∃ s w', build Sample.key Sample.spoiltLast .es256 none none Sample.world =
      (.ok s, w') := ⟨_, _, rfl⟩
  have hrefused : ∃ e, build Sample.key Sample.spoiltLast.reverse .es256 none none Sample.world =
      (.error (.credential e), Sample.world) := ⟨_, rfl⟩
  obtain ⟨s, w', hbuilt⟩ := hbuilt
  obtain ⟨e, hrefused⟩ := hrefused
  rw [hbuilt, hrefused] at hagree
  cases hagree

end KeySigner

end ClaimSeal

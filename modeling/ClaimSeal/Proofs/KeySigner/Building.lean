import ClaimSeal.Config
import ClaimSeal.Proofs.Operation

/-!
**What it takes to build a signer.**

A signer is built in three steps: its key is checked against the algorithm, the chain is ordered,
and a revocation response is attached if there is one.  This module says of every step exactly when
it succeeds and what it gives, how it fails else, and then what a signer that is built is made of.

Main definitions:

* `Algorithm.Fits` — what an algorithm asks of a key;
* `Algorithm.Takes` — the keys that an algorithm takes, one by one;
* `Certificate.HoldsOther` — a certificate that the search for the own one passes.

Main results:

* `Algorithm.suits_eq_ok_iff`, `orderChain_eq_ok_iff`, `eq_of_acceptOcsp` — the three steps;
* `orderChain_eq_error_iff` — how a chain cannot be ordered;
* `KeySigner.withOcsp_eq_ok_iff`, `KeySigner.assemble_eq_ok_iff` — building a signer;
* `KeySigner.withOcsp_eq_error_iff`, `KeySigner.assemble_eq_error_iff` — why none is built.
-/

set_option autoImplicit false

namespace ClaimSeal

open Run

variable {σ κ : Type}

/-! ### Keys and algorithms -/

/-- What an algorithm asks of a key: a curve with exactly its name, a modulus of a sufficient size,
or the twisted Edwards curve. -/
def Algorithm.Fits (alg : Algorithm) (family : KeyFamily) : Prop :=
  match alg.family with
  | .ecdsa => ∃ name bits, alg.curve? = some name ∧ family = .elliptic name.text bits
  | .rsaPss => ∃ bits, leastRsaSize ≤ bits ∧ family = .rsa bits
  | .edwards => family = .edwards

theorem Algorithm.suits_eq_ok_iff {alg : Algorithm} {family : KeyFamily} :
    alg.suits family = .ok () ↔ alg.Fits family := by
  unfold suits Fits
  cases alg.family with
  | ecdsa =>
      cases family with
      | elliptic curve bits =>
          simp only [KeyFamily.elliptic.injEq]
          split
          · next h =>
              obtain ⟨name, hname, htext⟩ := Option.map_eq_some_iff.1 h
              simp [hname, htext]
          · next h =>
              constructor
              · intro h'
                cases h'
              · rintro ⟨name, bits', hname, htext, _⟩
                exact absurd (by rw [hname, htext]; rfl) h
      | _ => simp
  | rsaPss =>
      cases family with
      | rsa bits =>
          simp only [KeyFamily.rsa.injEq]
          split
          · next h => simp [Int.not_le.2 h]
          · next h => simp [Int.not_lt.1 h]
      | _ => simp
  | edwards => cases family <;> simp

/-- The keys that an algorithm takes and how it uses them, one by one: curves by their names,
hashes, and the size of the salt. -/
inductive Algorithm.Takes : Algorithm → KeyFamily → KeyUse → Prop
  | es256 (bits : Int) : Takes es256 (.elliptic (txt "secp256r1") bits) (.ecdsa .sha256)
  | es384 (bits : Int) : Takes es384 (.elliptic (txt "secp384r1") bits) (.ecdsa .sha384)
  | es512 (bits : Int) : Takes es512 (.elliptic (txt "secp521r1") bits) (.ecdsa .sha512)
  | ps256 {bits : Int} (h : 2048 ≤ bits) : Takes ps256 (.rsa bits) (.pss .sha256 .sha256 32)
  | ps384 {bits : Int} (h : 2048 ≤ bits) : Takes ps384 (.rsa bits) (.pss .sha384 .sha384 48)
  | ps512 {bits : Int} (h : 2048 ≤ bits) : Takes ps512 (.rsa bits) (.pss .sha512 .sha512 64)
  | ed25519 : Takes ed25519 .edwards .plain

/-- A key that fits is one that the algorithm takes. -/
theorem Algorithm.fits_iff_takes {alg : Algorithm} {family : KeyFamily} :
    alg.Fits family ↔ ∃ use, alg.Takes family use := by
  constructor
  · intro h
    cases alg with
    | es256 | es384 | es512 =>
        obtain ⟨_, bits, hname, rfl⟩ := h
        cases hname
        exact ⟨_, by constructor⟩
    | ps256 | ps384 | ps512 =>
        obtain ⟨bits, hbits, rfl⟩ := h
        exact ⟨_, by constructor; exact hbits⟩
    | ed25519 =>
        obtain rfl := h
        exact ⟨_, .ed25519⟩
  · rintro ⟨use, h⟩
    cases h with
    | es256 bits | es384 bits | es512 bits => exact ⟨_, bits, rfl, rfl⟩
    | ps256 h | ps384 h | ps512 h => exact ⟨_, h, rfl⟩
    | ed25519 => rfl

/-! ### Ordering a chain -/

/-- A certificate holds another key than a given one. -/
def Certificate.HoldsOther (key : κ) (c : Certificate κ) : Prop :=
  ∃ k, c.publicKey = .ok k ∧ k ≠ key

/-- Certificates with other keys are passed one after the other. -/
theorem orderChainFrom_append [DecidableEq κ] {key : κ} {front : List (Certificate κ)}
    (h : ∀ c ∈ front, c.HoldsOther key) (index : Nat) (before rest : List (Certificate κ)) :
    orderChainFrom key index before (front ++ rest) =
      orderChainFrom key (index + front.length) (before ++ front) rest := by
  induction front generalizing index before with
  | nil => simp
  | cons c front ih =>
      obtain ⟨k, hk, hne⟩ := h c List.mem_cons_self
      rw [List.cons_append, orderChainFrom, hk]
      simp only [if_neg hne]
      rw [ih fun d hd => h d (List.mem_cons_of_mem _ hd)]
      simp [Nat.add_assoc, Nat.add_comm 1]

/-- All certificates hold other keys, or there is a first one that does not. -/
theorem Certificate.exists_first (key : κ) (certs : List (Certificate κ)) :
    (∀ c ∈ certs, c.HoldsOther key) ∨
      ∃ front c back, certs = front ++ c :: back ∧ (∀ d ∈ front, d.HoldsOther key) ∧
        (c.publicKey = .ok key ∨ ∃ why, c.publicKey = .error why) := by
  induction certs with
  | nil => exact .inl (by simp)
  | cons c rest ih =>
      cases hc : c.publicKey with
      | error why => exact .inr ⟨[], c, rest, rfl, by simp, .inr ⟨why, hc⟩⟩
      | ok k =>
          by_cases hk : k = key
          · exact .inr ⟨[], c, rest, rfl, by simp, .inl (by rw [hc, hk])⟩
          · have hother : c.HoldsOther key := ⟨k, hc, hk⟩
            rcases ih with hall | ⟨front, d, back, rfl, hfront, hd⟩
            · exact .inl (List.forall_mem_cons.2 ⟨hother, hall⟩)
            · exact .inr ⟨c :: front, d, back, rfl, List.forall_mem_cons.2 ⟨hother, hfront⟩, hd⟩

theorem orderChain_of_matched [DecidableEq κ] {key : κ} {front back : List (Certificate κ)}
    {own : Certificate κ} (hfront : ∀ c ∈ front, c.HoldsOther key)
    (hown : own.publicKey = .ok key) :
    orderChain key (front ++ own :: back) = .ok ⟨front ++ back, own⟩ := by
  rw [orderChain, orderChainFrom_append hfront, orderChainFrom, hown]
  simp

theorem orderChain_of_unloadable [DecidableEq κ] {key : κ} {front back : List (Certificate κ)}
    {c : Certificate κ} {why : Option Fault} (hfront : ∀ d ∈ front, d.HoldsOther key)
    (hc : c.publicKey = .error why) :
    orderChain key (front ++ c :: back) = .error (publicKeyFailure front.length why) := by
  rw [orderChain, orderChainFrom_append hfront, orderChainFrom, hc, Nat.zero_add]

theorem orderChain_of_unmatched [DecidableEq κ] {key : κ} {certs : List (Certificate κ)}
    (h : ∀ c ∈ certs, c.HoldsOther key) :
    orderChain key certs = .error (.credential .unmatched) := by
  have hrun := orderChainFrom_append h 0 [] []
  rw [List.append_nil] at hrun
  rw [orderChain, hrun, orderChainFrom]

/-- The certificate that is set apart is the first one with the key of the signer; those before it
hold other keys, and the others keep their order. -/
theorem orderChain_eq_ok_iff [DecidableEq κ] {key : κ} {certs : List (Certificate κ)}
    {chain : Chain κ} :
    orderChain key certs = .ok chain ↔
      ∃ front back, certs = front ++ chain.own :: back ∧ chain.others = front ++ back ∧
        chain.own.publicKey = .ok key ∧ ∀ c ∈ front, ∃ k, c.publicKey = .ok k ∧ k ≠ key := by
  constructor
  · intro h
    rcases Certificate.exists_first key certs with
      hall | ⟨front, c, back, rfl, hfront, hc | ⟨why, hc⟩⟩
    · rw [orderChain_of_unmatched hall] at h
      cases h
    · rw [orderChain_of_matched hfront hc] at h
      cases h
      exact ⟨front, back, rfl, rfl, hc, hfront⟩
    · rw [orderChain_of_unloadable hfront hc] at h
      cases h
  · rintro ⟨front, back, rfl, hothers, hown, hfront⟩
    rw [orderChain_of_matched hfront hown, ← hothers]

/-- No certificate is set apart if all of them hold other keys, or if the first one that does not
hold another key cannot be loaded; the position of that one is told. -/
theorem orderChain_eq_error_iff [DecidableEq κ] {key : κ} {certs : List (Certificate κ)}
    {f : Failure} :
    orderChain key certs = .error f ↔
      (f = .credential .unmatched ∧ ∀ c ∈ certs, c.HoldsOther key) ∨
      ∃ front c back why, certs = front ++ c :: back ∧ (∀ d ∈ front, d.HoldsOther key) ∧
        c.publicKey = .error why ∧ f = publicKeyFailure front.length why := by
  constructor
  · intro h
    rcases Certificate.exists_first key certs with
      hall | ⟨front, c, back, rfl, hfront, hc | ⟨why, hc⟩⟩
    · rw [orderChain_of_unmatched hall] at h
      cases h
      exact .inl ⟨rfl, hall⟩
    · rw [orderChain_of_matched hfront hc] at h
      cases h
    · rw [orderChain_of_unloadable hfront hc] at h
      cases h
      exact .inr ⟨front, c, back, why, rfl, hfront, hc, rfl⟩
  · rintro (⟨rfl, hall⟩ | ⟨front, c, back, why, rfl, hfront, hc, rfl⟩)
    · exact orderChain_of_unmatched hall
    · exact orderChain_of_unloadable hfront hc

/-! ### Attaching a revocation response -/

/-- A response that is accepted is passed on as it is. -/
theorem eq_of_acceptOcsp {response accepted : Bytes} {serial : Int}
    (h : acceptOcsp response serial = .ok accepted) : accepted = response := by
  rw [acceptOcsp, Outcome.mapError_eq_ok_iff, Ocsp.accept, Outcome.bind_eq_ok_iff] at h
  obtain ⟨status, _, h⟩ := h
  split at h
  · split at h
    · cases h
    · split at h
      · cases h
        rfl
      · cases h
  · cases h

namespace KeySigner

theorem withOcsp_eq_ok_iff {s s' : KeySigner σ κ} {response : Bytes} :
    s.withOcsp response = .ok s' ↔
      acceptOcsp response s.chain.own.serial = .ok response ∧
        s' = { s with ocsp := some response } := by
  rw [withOcsp, Outcome.bind_eq_ok_iff]
  constructor
  · rintro ⟨accepted, ha, h⟩
    obtain rfl := eq_of_acceptOcsp ha
    cases h
    exact ⟨ha, rfl⟩
  · rintro ⟨ha, rfl⟩
    exact ⟨response, ha, rfl⟩

/-! ### Building -/

/-- A signer is built from a key that fits the algorithm and from the ordered chain.  It carries the
revocation response that is given unless that is empty, and then it has to be accepted. -/
theorem assemble_eq_ok_iff [DecidableEq κ] {key : PrivateKey σ κ} {certs : List (Certificate κ)}
    {alg : Algorithm} {tsaUrl : Option Text} {ocsp : Option Bytes} {s : KeySigner σ κ} :
    assemble key certs alg tsaUrl ocsp = .ok s ↔
      alg.Fits key.family ∧ ∃ chain, orderChain key.publicKey certs = .ok chain ∧
        s = ⟨key, alg, tsaUrl, chain, ocsp.filter (!·.isEmpty)⟩ ∧
        ∀ response, s.ocsp = some response →
          acceptOcsp response chain.own.serial = .ok response := by
  simp only [assemble, Outcome.bind_eq_ok_iff, Outcome.mapError_eq_ok_iff]
  constructor
  · rintro ⟨_, hfits, chain, hchain, h⟩
    refine ⟨Algorithm.suits_eq_ok_iff.1 hfits, chain, hchain, ?_⟩
    cases ocsp with
    | none =>
        cases h
        refine ⟨rfl, ?_⟩
        rintro response ⟨⟩
    | some response =>
        cases response with
        | nil =>
            cases h
            refine ⟨rfl, ?_⟩
            rintro response ⟨⟩
        | cons x response =>
            obtain ⟨haccepted, rfl⟩ := withOcsp_eq_ok_iff.1 h
            refine ⟨rfl, ?_⟩
            rintro response' ⟨⟩
            exact haccepted
  · rintro ⟨hfits, chain, hchain, rfl, haccepted⟩
    refine ⟨(), Algorithm.suits_eq_ok_iff.2 hfits, chain, hchain, ?_⟩
    cases ocsp with
    | none => rfl
    | some response =>
        cases response with
        | nil => rfl
        | cons x response => exact withOcsp_eq_ok_iff.2 ⟨haccepted _ rfl, rfl⟩

theorem withOcsp_eq_error_iff {s : KeySigner σ κ} {response : Bytes} {f : Failure} :
    s.withOcsp response = .error f ↔ acceptOcsp response s.chain.own.serial = .error f := by
  rw [withOcsp, Outcome.bind_eq_error_iff]
  constructor
  · rintro (h | ⟨_, _, h⟩)
    · exact h
    · cases h
  · exact .inl

/-- A signer is not built if its key does not fit the algorithm, else if the chain cannot be
ordered, else if the revocation response is not accepted. -/
theorem assemble_eq_error_iff [DecidableEq κ] {key : PrivateKey σ κ}
    {certs : List (Certificate κ)} {alg : Algorithm} {tsaUrl : Option Text}
    {ocsp : Option Bytes} {f : Failure} :
    assemble key certs alg tsaUrl ocsp = .error f ↔
      (∃ e, alg.suits key.family = .error e ∧ f = .credential e) ∨
      alg.Fits key.family ∧ (orderChain key.publicKey certs = .error f ∨
        ∃ chain, orderChain key.publicKey certs = .ok chain ∧
          ∃ response, ocsp.filter (!·.isEmpty) = some response ∧
            acceptOcsp response chain.own.serial = .error f) := by
  simp only [assemble, Outcome.bind_eq_error_iff, Outcome.mapError_eq_error_iff,
    Outcome.mapError_eq_ok_iff]
  constructor
  · rintro (⟨e, he, rfl⟩ | ⟨_, hfits, h | ⟨chain, hchain, h⟩⟩)
    · exact .inl ⟨e, he, rfl⟩
    · exact .inr ⟨Algorithm.suits_eq_ok_iff.1 hfits, .inl h⟩
    · refine .inr ⟨Algorithm.suits_eq_ok_iff.1 hfits, .inr ⟨chain, hchain, ?_⟩⟩
      cases ocsp with
      | none => cases h
      | some response =>
          cases response with
          | nil => cases h
          | cons x response => exact ⟨_, rfl, withOcsp_eq_error_iff.1 h⟩
  · rintro (⟨e, he, rfl⟩ | ⟨hfits, h | ⟨chain, hchain, response, hresponse, h⟩⟩)
    · exact .inl ⟨e, he, rfl⟩
    · exact .inr ⟨(), Algorithm.suits_eq_ok_iff.2 hfits, .inl h⟩
    · refine .inr ⟨(), Algorithm.suits_eq_ok_iff.2 hfits, .inr ⟨chain, hchain, ?_⟩⟩
      cases ocsp with
      | none => cases hresponse
      | some given =>
          cases given with
          | nil => cases hresponse
          | cons x given =>
              cases hresponse
              exact withOcsp_eq_error_iff.2 h

/-- Building logs one line about a signer that was built, and nothing otherwise. -/
theorem build_apply [DecidableEq κ] (key : PrivateKey σ κ) (certs : List (Certificate κ))
    (alg : Algorithm) (tsaUrl : Option Text) (ocsp : Option Bytes) (w : World σ) :
    build key certs alg tsaUrl ocsp w = match assemble key certs alg tsaUrl ocsp with
      | .ok s => (.ok s, { w with log := w.log ++ [⟨.debug, s.loadedLine⟩] })
      | .error f => (.error f, w) := by
  rw [build, Operation.ofExcept_bind_apply]
  cases assemble key certs alg tsaUrl ocsp <;> rfl

end KeySigner

end ClaimSeal

import ClaimSeal.Proofs.KeySigner.Building

/-!
**Where signers come from, and what holds of all of them.**

There are four ways to a signer with a private key: from a key and certificates, from a certificate
bundle and a key as bytes or as files, and through a configuration.  After that, revocation
responses are offered to it one by one; one that is not accepted changes nothing.  Every signer that
comes about like this has a key that fits its algorithm, a certificate with its own public key set
apart from the others, and no revocation response but one that covers that certificate.

Main definitions:

* `Certificate.IsRead` — a certificate is what its encoding holds;
* `KeySigner.Made` — a signer just built, in any of the four ways;
* `KeySigner.offer` — the signer in hand after a revocation response was offered;
* `KeySigner.Sound` — how the parts of a signer go together.

Main results:

* `KeySigner.exists_of_ofBytes`, `KeySigner.exists_of_ofFiles`, `KeySigner.exists_of_keySigner` —
  what a signer from credentials is made of;
* `KeySigner.Made.sound`, `KeySigner.Sound.offers` — **what is built is sound, and stays so whatever
  is offered to it**.
-/

set_option autoImplicit false

namespace ClaimSeal

open Run

variable {σ κ : Type}

/-! ### Certificates from files -/

/-- A certificate is what its encoding holds. -/
def Certificate.IsRead (c : Certificate PublicKey) : Prop :=
  CertificateFile.ofContents c.der = .ok c

theorem CertificateFile.der_of_ofContents {der : Bytes} {c : Certificate PublicKey}
    (h : ofContents der = .ok c) : c.der = der := by
  rw [ofContents] at h
  cases hr : Der.whole? reader der with
  | none =>
      simp only [hr] at h
      cases h
  | some record =>
      simp only [hr] at h
      split at h
      · cases h
        rfl
      · cases h

/-- The certificates in a file are what their encodings hold. -/
theorem CertificateFile.isRead_of_load {file : Bytes} {certs : List (Certificate PublicKey)}
    (h : load file = .ok certs) : ∀ c ∈ certs, c.IsRead := by
  intro c hc
  rw [load] at h
  split at h
  · cases h
  · next blocks hblocks =>
      obtain ⟨read, hread, h⟩ := Outcome.bind_eq_ok_iff.1 h
      split at h
      · cases h
      · cases h
        obtain ⟨block, _, hblock⟩ := Outcome.exists_of_mem_mapM hread hc
        rw [Certificate.IsRead, der_of_ofContents hblock]
        exact hblock

namespace KeySigner

/-! ### The four ways to a signer -/

/-- A signer just built, from certificates that have a property.  A certificate that comes from a
file has the property that it is what its encoding holds. -/
inductive Made : {κ : Type} → (Certificate κ → Prop) → KeySigner σ κ → Prop
  | build {κ : Type} [DecidableEq κ] {P : Certificate κ → Prop} {key : PrivateKey σ κ}
      {certs : List (Certificate κ)} {alg : Algorithm} {tsaUrl : Option Text}
      {ocsp : Option Bytes} {w w' : World σ} {s : KeySigner σ κ} (hcerts : ∀ c ∈ certs, P c)
      (h : KeySigner.build key certs alg tsaUrl ocsp w = (.ok s, w')) : Made P s
  | ofBytes {cert key : Bytes} {alg : Datum} {tsaUrl password : Option Text} {w w' : World σ}
      {s : KeySigner σ PublicKey}
      (h : KeySigner.ofBytes cert key alg tsaUrl password w = (.ok s, w')) :
      Made Certificate.IsRead s
  | ofFiles {cert key : PathArg} {alg : Datum} {tsaUrl password : Option Text} {w w' : World σ}
      {s : KeySigner σ PublicKey}
      (h : KeySigner.ofFiles cert key alg tsaUrl password w = (.ok s, w')) :
      Made Certificate.IsRead s
  | configured {o : KeyOptions} {w w' : World σ} {s : KeySigner σ PublicKey}
      (h : Config.keySigner o w = (.ok s, w')) : Made Certificate.IsRead s

/-- The signer in hand after a revocation response was offered: a copy that carries the response if
it is accepted, else the same one. -/
def offer (s : KeySigner σ κ) (response : Bytes) : KeySigner σ κ :=
  match s.withOcsp response with
  | .ok s' => s'
  | .error _ => s

/-- Nothing but the revocation response changes, however many are offered. -/
theorem exists_offers_eq (s : KeySigner σ κ) (responses : List Bytes) :
    ∃ ocsp, responses.foldl offer s = { s with ocsp } := by
  induction responses generalizing s with
  | nil => exact ⟨s.ocsp, rfl⟩
  | cons response responses ih =>
      obtain ⟨ocsp, h⟩ := ih (s.offer response)
      rw [List.foldl_cons, h]
      refine ⟨ocsp, ?_⟩
      -- what is offered first changes nothing else either
      rw [offer]
      split
      · next s' hs =>
          obtain ⟨_, rfl⟩ := withOcsp_eq_ok_iff.1 hs
          rfl
      · rfl

/-! ### What they are made of -/

theorem assemble_of_build [DecidableEq κ] {key : PrivateKey σ κ} {certs : List (Certificate κ)}
    {alg : Algorithm} {tsaUrl : Option Text} {ocsp : Option Bytes} {w w' : World σ}
    {s : KeySigner σ κ} (h : build key certs alg tsaUrl ocsp w = (.ok s, w')) :
    assemble key certs alg tsaUrl ocsp = .ok s := by
  simp only [build, bind_eq_ok_iff, Operation.ofExcept_eq_ok_iff, pure_eq_ok_iff] at h
  obtain ⟨_, _, ⟨hs, _⟩, _, _, _, rfl, _⟩ := h
  exact hs

/-- A signer from bytes is built from the key and the certificates that the bytes hold. -/
theorem exists_of_ofBytes {cert key : Bytes} {alg : Datum} {tsaUrl password : Option Text}
    {w w' : World σ} {s : KeySigner σ PublicKey}
    (h : ofBytes cert key alg tsaUrl password w = (.ok s, w')) :
    ∃ (algorithm : Algorithm) (material : KeyMaterial) (certs : List (Certificate PublicKey)),
      Algorithm.parse alg = .ok algorithm ∧ loadPrivateKey? key password = some material ∧
      CertificateFile.load cert = .ok certs ∧
      assemble material.toPrivateKey certs algorithm tsaUrl none = .ok s := by
  rw [ofBytes, bind_eq_ok_iff] at h
  obtain ⟨algorithm, v, hv, h⟩ := h
  obtain ⟨halg, rfl⟩ := Operation.ofExcept_eq_ok_iff.1 hv
  cases hkey : loadPrivateKey? key password with
  | none =>
      simp only [hkey] at h
      exact absurd h throw_ne_ok
  | some material =>
      simp only [hkey] at h
      obtain ⟨certs, _, hcerts, h⟩ := bind_eq_ok_iff.1 h
      exact ⟨algorithm, material, certs, halg, rfl, (Operation.ofExcept_eq_ok_iff.1 hcerts).1,
        assemble_of_build h⟩

/-- A signer from bytes has the algorithm that is named. -/
theorem parse_alg_of_ofBytes {cert key : Bytes} {alg : Datum} {tsaUrl password : Option Text}
    {w w' : World σ} {s : KeySigner σ PublicKey}
    (h : ofBytes cert key alg tsaUrl password w = (.ok s, w')) :
    Algorithm.parse alg = .ok s.alg := by
  obtain ⟨algorithm, _, _, halg, _, _, hassemble⟩ := exists_of_ofBytes h
  obtain ⟨_, _, _, rfl, _⟩ := assemble_eq_ok_iff.1 hassemble
  exact halg

/-- A signer from files is one from their contents. -/
theorem exists_of_ofFiles {cert key : PathArg} {alg : Datum} {tsaUrl password : Option Text}
    {w w' : World σ} {s : KeySigner σ PublicKey}
    (h : ofFiles cert key alg tsaUrl password w = (.ok s, w')) :
    ∃ certFile keyFile v, ofBytes certFile keyFile alg tsaUrl password v = (.ok s, w') := by
  rw [ofFiles, fromFiles, bind_eq_ok_iff] at h
  obtain ⟨certFile, _, _, h⟩ := h
  obtain ⟨keyFile, v, _, h⟩ := bind_eq_ok_iff.1 h
  exact ⟨certFile, keyFile, v, h⟩

/-- A signer that is configured is one from files, perhaps with a revocation response. -/
theorem exists_of_keySigner {o : KeyOptions} {w w' : World σ} {s : KeySigner σ PublicKey}
    (h : Config.keySigner o w = (.ok s, w')) :
    ∃ s₀ v, ofFiles o.certificate o.privateKey o.alg o.tsaUrl o.password w = (.ok s₀, v) ∧
      (s = s₀ ∨ ∃ response, s₀.withOcsp response = .ok s) := by
  rw [Config.keySigner, bind_eq_ok_iff] at h
  obtain ⟨s₀, v, hfiles, h⟩ := h
  refine ⟨s₀, v, hfiles, ?_⟩
  cases hp : o.ocspResponse with
  | none =>
      simp only [hp] at h
      exact .inl (pure_eq_ok_iff.1 h).1.symm
  | some p =>
      simp only [hp] at h
      obtain ⟨response, _, _, h⟩ := bind_eq_ok_iff.1 h
      exact .inr ⟨response, (Operation.ofExcept_eq_ok_iff.1 h).1⟩

/-! ### Soundness -/

/-- What the parts of a signer have to do with each other: the key fits the algorithm, the
certificate that is set apart holds its public key, and the revocation response is one that is
accepted for that certificate. -/
structure Sound (P : Certificate κ → Prop) (s : KeySigner σ κ) : Prop where
  fits : s.alg.Fits s.key.family
  property : P s.chain.own
  publicKey : s.chain.own.publicKey = .ok s.key.publicKey
  accepted : ∀ response, s.ocsp = some response →
    acceptOcsp response s.chain.own.serial = .ok response

theorem sound_of_assemble [DecidableEq κ] {P : Certificate κ → Prop} {key : PrivateKey σ κ}
    {certs : List (Certificate κ)} {alg : Algorithm} {tsaUrl : Option Text} {ocsp : Option Bytes}
    {s : KeySigner σ κ} (hcerts : ∀ c ∈ certs, P c)
    (h : assemble key certs alg tsaUrl ocsp = .ok s) : Sound P s := by
  obtain ⟨hfits, chain, hchain, rfl, haccepted⟩ := assemble_eq_ok_iff.1 h
  obtain ⟨front, back, rfl, _, hown, _⟩ := orderChain_eq_ok_iff.1 hchain
  have hP : P chain.own := hcerts _ (List.mem_append_right _ List.mem_cons_self)
  exact ⟨hfits, hP, hown, haccepted⟩

theorem Sound.withOcsp {P : Certificate κ → Prop} {s s' : KeySigner σ κ} {response : Bytes}
    (hs : Sound P s) (h : s.withOcsp response = .ok s') : Sound P s' := by
  obtain ⟨haccepted, rfl⟩ := withOcsp_eq_ok_iff.1 h
  refine ⟨hs.fits, hs.property, hs.publicKey, ?_⟩
  intro response' hresponse
  cases hresponse
  exact haccepted

/-- One offer keeps a signer sound, whether the response is accepted or not. -/
theorem Sound.offer {P : Certificate κ → Prop} {s : KeySigner σ κ} (hs : Sound P s)
    (response : Bytes) : Sound P (s.offer response) := by
  rw [KeySigner.offer]
  split
  · next s' h => exact hs.withOcsp h
  · exact hs

/-- So does any number of them. -/
theorem Sound.offers {P : Certificate κ → Prop} {s : KeySigner σ κ} (hs : Sound P s)
    (responses : List Bytes) : Sound P (responses.foldl KeySigner.offer s) := by
  induction responses generalizing s with
  | nil => exact hs
  | cons response responses ih => exact ih (hs.offer response)

theorem sound_of_ofBytes {cert key : Bytes} {alg : Datum} {tsaUrl password : Option Text}
    {w w' : World σ} {s : KeySigner σ PublicKey}
    (h : ofBytes cert key alg tsaUrl password w = (.ok s, w')) : Sound Certificate.IsRead s := by
  obtain ⟨_, _, certs, _, _, hcerts, hs⟩ := exists_of_ofBytes h
  exact sound_of_assemble (CertificateFile.isRead_of_load hcerts) hs

theorem sound_of_ofFiles {cert key : PathArg} {alg : Datum} {tsaUrl password : Option Text}
    {w w' : World σ} {s : KeySigner σ PublicKey}
    (h : ofFiles cert key alg tsaUrl password w = (.ok s, w')) : Sound Certificate.IsRead s := by
  obtain ⟨_, _, _, hbytes⟩ := exists_of_ofFiles h
  exact sound_of_ofBytes hbytes

/-- Every signer is sound when it has just been built. -/
theorem Made.sound {P : Certificate κ → Prop} {s : KeySigner σ κ} (h : Made P s) : Sound P s := by
  cases h with
  | build hcerts h => exact sound_of_assemble hcerts (assemble_of_build h)
  | ofBytes h => exact sound_of_ofBytes h
  | ofFiles h => exact sound_of_ofFiles h
  | configured h =>
      obtain ⟨s₀, _, hfiles, rfl | ⟨response, hresponse⟩⟩ := exists_of_keySigner h
      · exact sound_of_ofFiles hfiles
      · exact (sound_of_ofFiles hfiles).withOcsp hresponse

end KeySigner

end ClaimSeal

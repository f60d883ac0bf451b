import ClaimSeal.Proofs.KeySigner.Order
import ClaimSeal.Proofs.KeySigner.Reservation

/-!
**How building a signer from bytes ends.**

Bytes that make no signer are refused as unusable credentials: the algorithm is not known, the key
or the certificates cannot be read, the key does not fit the algorithm, or no certificate can be set
apart as the signer's own.  There is one exception.  A certificate may be well-formed and have a
version that is not known, and if this is the first one in its file that cannot be loaded, and the
algorithm and the key have been read before, its version gets out as it is.

Main definitions:

* `CertificateFile.HoldsVersion` — an unknown version comes first in a certificate file;
* `KeySigner.Loading` — **how building from bytes ends**, and why;
* `KeySigner.Concluded` — a signer is built or the credentials are refused.

Main results:

* `CertificateFile.load_eq_version_iff` — when a version gets out of a certificate file;
* `KeySigner.loading` — building from bytes ends in one of those ways;
* `KeySigner.concluded_ofBytes_iff` — **when a signer is built or the credentials are refused**;
* `KeySigner.not_forall_concluded` — there are other cases.
-/

set_option autoImplicit false

namespace ClaimSeal

open Run

variable {σ : Type}

/-! ### Certificates of unknown versions -/

namespace CertificateFile

/-- The first certificate in a file that cannot be loaded is well-formed and has an unknown
version. -/
def HoldsVersion (file : Bytes) (n : Nat) : Prop :=
  ∃ blocks front block back record, Pem.parse? file = some blocks ∧
    blocks.filter isCertificate = front ++ block :: back ∧
    (∀ b ∈ front, ∃ c, ofContents b.contents = .ok c) ∧
    Der.whole? reader block.contents = some record ∧ record.version = n ∧ n ≠ 0 ∧ n ≠ 2

theorem ofContents_eq_version_iff {der : Bytes} {n : Nat} :
    ofContents der = .error (.version n) ↔
      ∃ record, Der.whole? reader der = some record ∧ record.version = n ∧ n ≠ 0 ∧ n ≠ 2 := by
  rw [ofContents]
  cases hread : Der.whole? reader der with
  | none =>
      constructor
      · intro h
        cases h
      · rintro ⟨record, h, _⟩
        cases h
  | some record =>
      constructor
      · intro h
        simp only at h
        split at h
        · cases h
        · next hversion =>
            cases h
            exact ⟨record, rfl, rfl, fun h => hversion (.inl h), fun h => hversion (.inr h)⟩
      · rintro ⟨_, h, rfl, hzero, htwo⟩
        cases h
        have hversion : ¬(record.version = 0 ∨ record.version = 2) := by
          rintro (h | h)
          · exact hzero h
          · exact htwo h
        simp only [if_neg hversion]

/-- A version gets out of a file if it is that of the first certificate that cannot be loaded. -/
theorem load_eq_version_iff {file : Bytes} {n : Nat} :
    load file = .error (.version n) ↔ HoldsVersion file n := by
  rw [load]
  cases hparse : Pem.parse? file with
  | none =>
      constructor
      · intro h
        cases h
      · rintro ⟨blocks, _, _, _, _, h, _⟩
        rw [hparse] at h
        cases h
  | some blocks =>
      simp only [Outcome.bind_eq_error_iff, Outcome.mapM_eq_error_iff, ofContents_eq_version_iff]
      constructor
      · rintro (⟨front, block, back, hblocks, hfront, record, hrecord, hversion⟩ | ⟨_, _, h⟩)
        · exact ⟨blocks, front, block, back, record, hparse, hblocks, hfront, hrecord, hversion⟩
        · -- a file without certificates is malformed
          split at h <;> cases h
      · rintro ⟨blocks', front, block, back, record, hparse', hblocks, hfront, hrecord, hversion⟩
        rw [hparse] at hparse'
        cases hparse'
        exact .inl ⟨front, block, back, hblocks, hfront, record, hrecord, hversion⟩

end CertificateFile

/-- Where the public key of a certificate from a file cannot be loaded, the certificate itself is to
blame. -/
theorem Certificate.IsRead.takesBlame {c : Certificate PublicKey} (h : c.IsRead) :
    c.TakesBlame := by
  intro f hf
  rw [IsRead, CertificateFile.ofContents] at h
  split at h
  · cases h
  · split at h
    · obtain hc := Except.ok.inj h
      rw [← hc] at hf
      simp only at hf
      split at hf <;> cases hf
    · cases h

namespace KeySigner

/-! ### How building from bytes ends -/

/-- What bytes hold: an algorithm, a private key and certificates. -/
structure Holds (cert key : Bytes) (alg : Datum) (password : Option Text) (algorithm : Algorithm)
    (material : KeyMaterial) (certs : List (Certificate PublicKey)) : Prop where
  alg : Algorithm.parse alg = .ok algorithm
  key : loadPrivateKey? key password = some material
  certs : CertificateFile.load cert = .ok certs

/-- How building from bytes ends: one of the three cannot be read, they do not belong together, or a
signer is built from them. -/
inductive Loading (cert key : Bytes) (alg : Datum) (tsaUrl password : Option Text) (w : World σ) :
    Except Failure (KeySigner σ PublicKey) × World σ → Prop
  | unsupported {u : Algorithm.Unsupported} (halg : Algorithm.parse alg = .error u) :
      Loading cert key alg tsaUrl password w (.error (.credential (.unsupported u)), w)
  | keyless {algorithm : Algorithm} (halg : Algorithm.parse alg = .ok algorithm)
      (hkey : loadPrivateKey? key password = none) :
      Loading cert key alg tsaUrl password w (.error (.credential .privateKey), w)
  | malformed {algorithm : Algorithm} {material : KeyMaterial}
      (halg : Algorithm.parse alg = .ok algorithm)
      (hkey : loadPrivateKey? key password = some material)
      (hcert : CertificateFile.load cert = .error .malformed) :
      Loading cert key alg tsaUrl password w (.error (.credential .certificates), w)
  | version {algorithm : Algorithm} {material : KeyMaterial} {n : Nat}
      (halg : Algorithm.parse alg = .ok algorithm)
      (hkey : loadPrivateKey? key password = some material)
      (hcert : CertificateFile.load cert = .error (.version n)) :
      Loading cert key alg tsaUrl password w (.error (.certificateVersion n), w)
  | refused {algorithm : Algorithm} {material : KeyMaterial} {certs : List (Certificate PublicKey)}
      {e : CredentialError} (hholds : Holds cert key alg password algorithm material certs)
      (h : assemble (material.toPrivateKey : PrivateKey σ PublicKey) certs algorithm tsaUrl none =
        .error (.credential e)) :
      Loading cert key alg tsaUrl password w (.error (.credential e), w)
  | built {algorithm : Algorithm} {material : KeyMaterial} {certs : List (Certificate PublicKey)}
      {s : KeySigner σ PublicKey} (hholds : Holds cert key alg password algorithm material certs)
      (h : assemble material.toPrivateKey certs algorithm tsaUrl none = .ok s) :
      Loading cert key alg tsaUrl password w
        (.ok s, { w with log := w.log ++ [⟨.debug, s.loadedLine⟩] })

/-- Building from bytes ends in one of these ways. -/
theorem loading (cert key : Bytes) (alg : Datum) (tsaUrl password : Option Text) (w : World σ) :
    Loading cert key alg tsaUrl password w (ofBytes cert key alg tsaUrl password w) := by
  rw [ofBytes, Operation.ofExcept_bind_apply]
  cases halg : Algorithm.parse alg with
  | error u => exact .unsupported halg
  | ok algorithm =>
      cases hkey : loadPrivateKey? key password with
      | none => exact .keyless halg hkey
      | some material =>
          simp only [Operation.ofExcept_bind_apply]
          cases hcert : CertificateFile.load cert with
          | error why =>
              cases why with
              | malformed => exact .malformed halg hkey hcert
              | version n => exact .version halg hkey hcert
          | ok certs =>
              have hholds : Holds cert key alg password algorithm material certs :=
                ⟨halg, hkey, hcert⟩
              simp only [build_apply]
              cases hassemble : assemble (material.toPrivateKey : PrivateKey σ PublicKey) certs
                  algorithm tsaUrl none with
              | ok s => exact .built hholds hassemble
              | error f =>
                  have hblame : ∀ c ∈ certs, c.TakesBlame := fun c hc =>
                    (CertificateFile.isRead_of_load hcert c hc).takesBlame
                  obtain ⟨e, rfl⟩ := exists_credential_of_assemble hblame hassemble
                  exact .refused hholds hassemble

/-! ### What is not refused -/

/-- A signer is built and logged, or the credentials are refused and nothing is logged. -/
def Concluded (w : World σ) (r : Except Failure (KeySigner σ PublicKey) × World σ) : Prop :=
  (∃ s, r = (.ok s, { w with log := w.log ++ [⟨.debug, s.loadedLine⟩] })) ∨
    ∃ e, r = (.error (.credential e), w)

/-- Building from bytes comes as far as a certificate of an unknown version: the algorithm and the
key can be read. -/
structure StopsAtVersion (cert key : Bytes) (alg : Datum) (password : Option Text) (n : Nat) :
    Prop where
  alg : ∃ algorithm, Algorithm.parse alg = .ok algorithm
  key : ∃ material, loadPrivateKey? key password = some material
  version : CertificateFile.HoldsVersion cert n

/-- The version gets out, and the world stays as it is. -/
theorem StopsAtVersion.ofBytes_eq {cert key : Bytes} {alg : Datum} {password : Option Text}
    {n : Nat} (h : StopsAtVersion cert key alg password n) (tsaUrl : Option Text) (w : World σ) :
    ofBytes cert key alg tsaUrl password w = (.error (.certificateVersion n), w) := by
  obtain ⟨⟨algorithm, halg⟩, ⟨material, hkey⟩, hcert⟩ := h
  rw [ofBytes, Operation.ofExcept_bind_apply, halg]
  simp only [hkey]
  rw [Operation.ofExcept_bind_apply, CertificateFile.load_eq_version_iff.2 hcert]
  rfl

theorem StopsAtVersion.not_concluded {cert key : Bytes} {alg : Datum} {password : Option Text}
    {n : Nat} (h : StopsAtVersion cert key alg password n) (tsaUrl : Option Text) (w : World σ) :
    ¬ Concluded w (ofBytes cert key alg tsaUrl password w) := by
  rw [h.ofBytes_eq]
  rintro (⟨s, hs⟩ | ⟨e, he⟩)
  · cases hs
  · cases he

/-- **From any bytes a signer is built or the credentials are refused, unless** an unknown version
of a certificate stops it.  That version gets out, and the world stays as it is. -/
theorem concluded_ofBytes_iff (cert key : Bytes) (alg : Datum) (tsaUrl password : Option Text)
    (w : World σ) :
    (Concluded w (ofBytes cert key alg tsaUrl password w) ↔
      ∀ n, ¬ StopsAtVersion cert key alg password n) ∧
    ∀ n, StopsAtVersion cert key alg password n →
      ofBytes cert key alg tsaUrl password w = (.error (.certificateVersion n), w) := by
  refine ⟨⟨?_, ?_⟩, fun n hn => hn.ofBytes_eq tsaUrl w⟩
  · intro hconcluded n hn
    exact hn.not_concluded tsaUrl w hconcluded
  · intro hnone
    have hloading := loading cert key alg tsaUrl password w
    generalize ofBytes cert key alg tsaUrl password w = r at hloading
    cases hloading with
    | version halg hkey hcert =>
        exact absurd ⟨⟨_, halg⟩, ⟨_, hkey⟩, CertificateFile.load_eq_version_iff.1 hcert⟩ (hnone _)
    | built hholds h => exact .inl ⟨_, rfl⟩
    | unsupported halg => exact .inr ⟨_, rfl⟩
    | keyless halg hkey => exact .inr ⟨_, rfl⟩
    | malformed halg hkey hcert => exact .inr ⟨_, rfl⟩
    | refused hholds h => exact .inr ⟨_, rfl⟩

/-! ### A version that gets out -/

namespace Sample

open Der

/-- The certificate of the sample with a version written out. -/
def versioned (version : Nat) : Bytes :=
  let name := encodeSequence []
  let moment := encode 0x17 (ascii "300101000000Z")
  let key := encodeSequence [algorithmId, encode 0x03 (0 :: Ed25519.publicKey seed)]
  let body := encodeSequence [encode 0xA0 (encodeInteger version), encodeInteger 300, algorithmId,
    name, encodeSequence [moment, moment], name, key]
  encodeSequence [body, algorithmId, encode 0x03 [0]]

theorem load_versioned :
    CertificateFile.load (armoured "CERTIFICATE" (versioned 1)) = .error (.version 1) := by
  decide +kernel

theorem isSome_loadPrivateKey? :
    (loadPrivateKey? (armoured "PRIVATE KEY" privateKey) none).isSome = true := by
  decide +kernel

end Sample

/-- Not from all bytes a signer is built or the credentials are refused. -/
theorem not_forall_concluded :
    ¬ ∀ (cert key : Bytes) (alg : Datum) (tsaUrl password : Option Text) (w : World Unit),
      Concluded w (ofBytes cert key alg tsaUrl password w) := by
  intro h
  have hstops : StopsAtVersion (Sample.armoured "CERTIFICATE" (Sample.versioned 1))
      (Sample.armoured "PRIVATE KEY" Sample.privateKey) (.json (.str (txt "ed25519"))) none 1 := {
    alg := ⟨.ed25519, rfl⟩
    key := Option.isSome_iff_exists.1 Sample.isSome_loadPrivateKey?
    version := CertificateFile.load_eq_version_iff.1 Sample.load_versioned }
  exact hstops.not_concluded none Sample.world (h _ _ _ none none Sample.world)

end KeySigner

end ClaimSeal

import ClaimSeal.Proofs.Der
import ClaimSeal.Proofs.KeySigner.Invariant
import ClaimSeal.Proofs.KeySigner.Signatures

/-!
**The reservation of a signer from credentials is always sufficient.**

Whatever the key of such a signer answers can be given out and fits, so no check of the size ever
refuses it.  The fixed part of the reservation has room for the signatures of all curves, but not
for those of all RSA keys.  These fit since the certificate of the key is among those that are
counted, and a certificate is at least as long as the modulus of its key.

Main definitions:

* `KeySigner.Loaded` — a signer from credentials;
* `KeySigner.Suffices` — the reservation of a signer is sufficient.

Main results:

* `KeySigner.Loaded.measured` — a large RSA key has a large certificate;
* `KeySigner.exists_finished` — what a key answers can be given out and fits;
* `KeySigner.suffices_of_loaded` — **the reservation is sufficient**.
-/

set_option autoImplicit false

namespace ClaimSeal

open Run

variable {σ κ : Type}

namespace KeySigner

/-! ### Signers from credentials -/

/-- A signer from a certificate bundle and a private key, given as bytes or as files. -/
inductive Loaded : KeySigner σ PublicKey → Prop
  | ofBytes {cert key : Bytes} {alg : Datum} {tsaUrl password : Option Text} {w w' : World σ}
      {s : KeySigner σ PublicKey}
      (h : KeySigner.ofBytes cert key alg tsaUrl password w = (.ok s, w')) : Loaded s
  | ofFiles {cert key : PathArg} {alg : Datum} {tsaUrl password : Option Text} {w w' : World σ}
      {s : KeySigner σ PublicKey}
      (h : KeySigner.ofFiles cert key alg tsaUrl password w = (.ok s, w')) : Loaded s

/-- Its key is one of the library. -/
theorem Loaded.exists_material {s : KeySigner σ PublicKey} (h : Loaded s) :
    ∃ material : KeyMaterial, s.key = material.toPrivateKey := by
  have hbytes : ∃ certFile keyFile alg tsaUrl password v w',
      KeySigner.ofBytes certFile keyFile alg tsaUrl password v = (.ok s, w') := by
    cases h with
    | ofBytes h => exact ⟨_, _, _, _, _, _, _, h⟩
    | ofFiles h =>
        obtain ⟨certFile, keyFile, v, h⟩ := exists_of_ofFiles h
        exact ⟨certFile, keyFile, _, _, _, v, _, h⟩
  obtain ⟨_, _, _, _, _, _, _, hbytes⟩ := hbytes
  obtain ⟨_, material, _, _, _, _, hs⟩ := exists_of_ofBytes hbytes
  obtain ⟨_, _, _, rfl, _⟩ := assemble_eq_ok_iff.1 hs
  exact ⟨material, rfl⟩

theorem Loaded.sized {s : KeySigner σ PublicKey} (h : Loaded s) : s.key.Sized := by
  obtain ⟨material, hkey⟩ := h.exists_material
  rw [hkey]
  exact material.sized_toPrivateKey

theorem Loaded.sound {s : KeySigner σ PublicKey} (h : Loaded s) : Sound Certificate.IsRead s := by
  cases h with
  | ofBytes h => exact sound_of_ofBytes h
  | ofFiles h => exact sound_of_ofFiles h

/-- What such a signer says about the size of its key: the size of its curve, or that of a modulus
which its own certificate holds. -/
structure Measured (s : KeySigner σ κ) : Prop where
  elliptic : ∀ name bits, s.key.family = .elliptic (Curve.Name.text name) bits →
    bits = name.domain.size
  rsa : ∀ bits, s.key.family = .rsa bits → (bits + 7) / 8 ≤ s.chain.own.der.length + 1

theorem Loaded.measured {s : KeySigner σ PublicKey} (h : Loaded s) : Measured s := by
  obtain ⟨material, hkey⟩ := h.exists_material
  constructor
  · intro name bits hfamily
    rw [hkey] at hfamily
    cases material with
    | elliptic curve secret point =>
        obtain ⟨htext, rfl⟩ := KeyFamily.elliptic.inj hfamily
        rw [Curve.Name.text_injective htext]
    | _ => cases hfamily
  · intro bits hfamily
    have hown := h.sound.publicKey
    rw [hkey] at hfamily hown
    cases material with
    | rsa key =>
        obtain rfl := KeyFamily.rsa.inj hfamily
        -- the certificate holds the modulus in full
        have hle := CertificateFile.widthOf_modulus_le h.sound.property hown
        have hwidth : (key.publicKey.size + 7) / 8 ≤ Bytes.widthOf key.publicKey.modulus + 1 := by
          rw [Rsa.PublicKey.size, Bytes.widthOf]
          split
          · next hzero => simp [hzero]
          · omega
        omega
    | _ => cases hfamily

/-! ### What is reserved is enough -/

/-- The own certificate is counted. -/
theorem own_le_reserveSize (s : KeySigner σ κ) : 1024 + s.chain.own.der.length ≤ s.reserveSize := by
  have hown : s.chain.own.der.length ≤ s.certs.flatten.length := by
    simp only [certs, List.flatten_append, List.length_append, List.flatten_singleton]
    omega
  have hbase : baseSize = 1024 := rfl
  rw [reserveSize]
  omega

/-- What the key answers can be given out, and fits into the reservation. -/
theorem exists_finished {s : KeySigner σ κ} {data answer : Bytes} {b b' : σ} (huse : s.UsesKey)
    (hsized : s.key.Sized) (hmeasured : s.Measured)
    (hanswer : s.key.sign s.keyUse data b = (.ok answer, b')) :
    ∃ signature, s.finished answer = .ok signature ∧ signature.length ≤ s.reserveSize := by
  have hreserved := own_le_reserveSize s
  unfold UsesKey at huse
  cases hf : s.alg.family with
  | ecdsa =>
      simp only [hf] at huse
      obtain ⟨name, bits, digest, _, hfamily, _, hkeyUse⟩ := huse
      rw [hkeyUse] at hanswer
      obtain ⟨r, t, _, hr, _, ht, rfl⟩ := hsized.elliptic _ _ _ _ _ _ _ hfamily hanswer
      -- two numbers of 66 bytes at most, which the fixed part has room for
      have hbits := hmeasured.elliptic name bits hfamily
      have hsize := name.size_le
      refine ⟨Bytes.ofNat ((name.domain.size + 7) / 8) r ++
        Bytes.ofNat ((name.domain.size + 7) / 8) t, ?_, ?_⟩
      · rw [finished_of_elliptic hf hfamily, plainCoordinates_eq_ok_iff]
        refine ⟨r, t, (name.domain.size + 7) / 8, ?_, ?_, ?_, ?_, rfl⟩
        · exact coordinates?_encodeSequence hr ht
        · rw [widthOfBits, hbits]
          omega
        · exact Bytes.lt_count_of_lt_pow hr (by omega)
        · exact Bytes.lt_count_of_lt_pow ht (by omega)
      · rw [List.length_append, Bytes.length_ofNat, Bytes.length_ofNat]
        omega
  | rsaPss =>
      simp only [hf] at huse
      obtain ⟨bits, digest, _, hfamily, _, hkeyUse⟩ := huse
      rw [hkeyUse] at hanswer
      -- the fixed part may be too small, but the own certificate is as long as the signature
      have hlength := hsized.rsa _ _ _ _ _ _ _ _ hfamily hanswer
      have hle := hmeasured.rsa bits hfamily
      exact ⟨answer, finished_of_ne_ecdsa (by simp [hf]) answer, by omega⟩
  | edwards =>
      simp only [hf] at huse
      obtain ⟨hfamily, hkeyUse⟩ := huse
      rw [hkeyUse] at hanswer
      have hlength := hsized.edwards _ _ _ _ hfamily hanswer
      exact ⟨answer, finished_of_ne_ecdsa (by simp [hf]) answer, by omega⟩

/-! ### No check refuses a signature -/

/-- The reservation of a signer is sufficient: whatever its key answers can be given out and fits,
so signing returns it, with and without the size check, and it never fails since a signature is too
large. -/
structure Suffices (s : KeySigner σ κ) : Prop where
  returned : ∀ data answer b b', s.key.sign s.keyUse data b = (.ok answer, b') →
    ∃ signature, s.finished answer = .ok signature ∧ signature.length ≤ s.reserveSize ∧
      s.sign data b = (.ok signature, b') ∧
      ∀ w, w.backend = b → s.toSigner.signClaim data w =
        (.ok signature, w.afterSigning b' data signature s.reserveSize)
  sign : ∀ data b b' size reserved, s.sign data b ≠ (.error (.oversized size reserved), b')
  signClaim : ∀ data w w' size reserved,
    s.toSigner.signClaim data w ≠ (.error (.oversized size reserved), w')

/-- How a fault of the key is reported. -/
theorem sign_of_fault {s : KeySigner σ κ} {data : Bytes} {b b' : σ} {f : Fault}
    (h : s.key.sign s.keyUse data b = (.error f, b')) :
    s.sign data b =
      (.error (if isSigningFault f then .keyUse s.alg (some f) else .fault f), b') := by
  rw [KeySigner.sign, bind_apply, useKey, h]

/-- What signing returns passes the size check that follows. -/
theorem signClaim_of_sign {s : KeySigner σ κ} {data signature : Bytes} {w : World σ} {b : σ}
    (h : s.sign data w.backend = (.ok signature, b)) :
    s.toSigner.signClaim data w =
      (.ok signature, w.afterSigning b data signature s.reserveSize) := by
  obtain ⟨_, _, _, hle⟩ := sign_eq_ok_iff.1 h
  exact Signer.signClaim_eq_ok_iff.2
    ⟨s.reserveSize, w.backend, b, rfl, h, Int.ofNat_le.2 hle, rfl⟩

theorem signClaim_of_error {s : KeySigner σ κ} {data : Bytes} {w : World σ} {f : Failure} {b : σ}
    (h : s.sign data w.backend = (.error f, b)) :
    s.toSigner.signClaim data w = (.error f.toSigning, { w with backend := b }) :=
  signWithin_of_error h

theorem toSigning_ne_oversized {f : Failure} {size : Nat} {reserved : Int}
    (h : f ≠ .oversized size reserved) : f.toSigning ≠ .oversized size reserved := by
  rw [Failure.toSigning]
  split
  · exact h
  · intro heq
    cases heq

/-- Signing with the size check fails for the size of a signature only if signing does. -/
theorem signClaim_ne_oversized {s : KeySigner σ κ} {data : Bytes} {w w' : World σ} {size : Nat}
    {reserved : Int} (h : ∀ b, s.sign data w.backend ≠ (.error (.oversized size reserved), b)) :
    s.toSigner.signClaim data w ≠ (.error (.oversized size reserved), w') := by
  intro hover
  rcases hrun : s.sign data w.backend with ⟨r, b⟩
  cases r with
  | ok signature =>
      rw [signClaim_of_sign hrun] at hover
      exact error_ne_ok hover.symm
  | error f =>
      rw [signClaim_of_error hrun] at hover
      refine toSigning_ne_oversized ?_ (error_eq_error_iff.1 hover).1
      rintro rfl
      exact h b hrun

/-- It is enough that whatever the key answers can be given out and fits. -/
theorem Suffices.of_exists_finished {s : KeySigner σ κ}
    (h : ∀ data answer b b', s.key.sign s.keyUse data b = (.ok answer, b') →
      ∃ signature, s.finished answer = .ok signature ∧ signature.length ≤ s.reserveSize) :
    Suffices s := by
  have hsigned : ∀ data answer b b', s.key.sign s.keyUse data b = (.ok answer, b') →
      ∃ signature, s.finished answer = .ok signature ∧ signature.length ≤ s.reserveSize ∧
        s.sign data b = (.ok signature, b') := by
    intro data answer b b' hanswer
    obtain ⟨signature, hfinished, hle⟩ := h data answer b b' hanswer
    exact ⟨signature, hfinished, hle, sign_eq_ok_iff.2 ⟨answer, hanswer, hfinished, hle⟩⟩
  have hsign : ∀ data b b' size reserved,
      s.sign data b ≠ (.error (.oversized size reserved), b') := by
    intro data b b' size reserved hover
    rcases hkey : s.key.sign s.keyUse data b with ⟨r, v⟩
    cases r with
    | ok answer =>
        obtain ⟨_, _, _, hsign⟩ := hsigned data answer b v hkey
        rw [hsign] at hover
        exact error_ne_ok hover.symm
    | error f =>
        -- a fault of the key is never reported as a matter of size
        rw [sign_of_fault hkey] at hover
        have hreport := (error_eq_error_iff.1 hover).1
        split at hreport <;> cases hreport
  constructor
  · intro data answer b b' hanswer
    obtain ⟨signature, hfinished, hle, hrun⟩ := hsigned data answer b b' hanswer
    refine ⟨signature, hfinished, hle, hrun, ?_⟩
    rintro w rfl
    exact signClaim_of_sign hrun
  · exact hsign
  · intro data w w' size reserved
    exact signClaim_ne_oversized fun b => hsign data w.backend b size reserved

/-- **The reservation is sufficient** for every signer from credentials, whatever revocation
responses were offered to it: for its own key, and for any other one of the same family whose
answers have the size of this family, however they are made. -/
theorem suffices_of_loaded {s : KeySigner σ PublicKey} (h : Loaded s) (responses : List Bytes) :
    Suffices (responses.foldl offer s) ∧
      ∀ key : PrivateKey σ PublicKey, key.family = s.key.family → key.Sized →
        Suffices { responses.foldl offer s with key } := by
  obtain ⟨ocsp, hsame⟩ := exists_offers_eq s responses
  have hsuffices : ∀ key : PrivateKey σ PublicKey, key.family = s.key.family → key.Sized →
      Suffices { responses.foldl offer s with key } := by
    intro key hfamily hsized
    rw [hsame]
    have huse : UsesKey { s with key, ocsp } := by
      refine usesKey_of_fits ?_
      show s.alg.Fits key.family
      rw [hfamily]
      exact h.sound.fits
    have hmeasured : Measured { s with key, ocsp } := by
      constructor
      · rw [hfamily]
        exact h.measured.elliptic
      · rw [hfamily]
        exact h.measured.rsa
    exact .of_exists_finished fun data answer b b' => exists_finished huse hsized hmeasured
  refine ⟨?_, hsuffices⟩
  have hown := hsuffices s.key rfl h.sized
  rw [hsame] at hown ⊢
  exact hown

/-! ### Credentials to try it on -/

namespace Sample

open Der

/-- The secret of a key on the twisted Edwards curve. -/
def seed : Bytes := List.replicate 32 7

/-- The identifier of such keys and their signatures. -/
def algorithmId : Bytes := encodeSequence [encode 0x06 [0x2B, 0x65, 0x70]]

/-- A certificate of the key, with empty names and an empty signature, which nobody checks. -/
def certificate (serial : Int) : Bytes :=
  let name := encodeSequence []
  let moment := encode 0x17 (ascii "300101000000Z")
  let key := encodeSequence [algorithmId, encode 0x03 (0 :: Ed25519.publicKey seed)]
  let body := encodeSequence [encodeInteger serial, algorithmId, name,
    encodeSequence [moment, moment], name, key]
  encodeSequence [body, algorithmId, encode 0x03 [0]]

/-- The key together with its algorithm. -/
def privateKey : Bytes :=
  encodeSequence [encodeInteger 0, algorithmId, encode 0x04 (encode 0x04 seed)]

/-- Contents as an armoured block. -/
def armoured (label : String) (contents : Bytes) : Bytes :=
  ascii "-----BEGIN " ++ ascii label ++ ascii "-----\n" ++ Base64.encode contents
    ++ ascii "\n-----END " ++ ascii label ++ ascii "-----\n"

/-- The signer from these credentials. -/
def load : Operation Unit (KeySigner Unit PublicKey) :=
  ofBytes (armoured "CERTIFICATE" (certificate 300)) (armoured "PRIVATE KEY" privateKey)
    (.json (.str (txt "Ed25519"))) (some (txt "http://tsa")) none

theorem isOk_load : (load Sample.world).1.isOk = true := by decide +kernel

end Sample

/-- The sample is built, and carries a revocation response. -/
theorem suffices_of_loaded_sample :
    ∃ s w', Sample.load Sample.world = (.ok s, w') ∧
      Suffices ([Sample.response 300].foldl offer s) ∧
      ∀ key : PrivateKey Unit PublicKey, key.family = s.key.family → key.Sized →
        Suffices { [Sample.response 300].foldl offer s with key } := by
  obtain ⟨s, w', h⟩ := exists_of_isOk Sample.isOk_load
  exact ⟨s, w', h, suffices_of_loaded (.ofBytes h) _⟩

end KeySigner

end ClaimSeal

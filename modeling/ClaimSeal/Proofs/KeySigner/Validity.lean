import ClaimSeal.Proofs.KeySigner.Invariant
import ClaimSeal.Proofs.KeySigner.Signatures

/-!
**Signatures are valid under the last certificate of the signer.**

A signature comes out of a signer directly, through the size check, through a worker or as part of a
signed claim.  Whichever way it takes, it was made by the key of the signer of exactly the claim
that was given, in the way that the algorithm asks for, and so it is valid under the public key in
the last certificate.  Two things are relied on: what a private key signs is valid under its public
key, and keys on elliptic curves answer with two numbers in the range of the curve.

Main definitions:

* `PrivateKey.Honest` — what is relied on of a private key;
* `Gives` — the ways in which a signature comes out of a signer;
* `KeySigner.Presents`, `KeySigner.Valid` — the form of a signature, and what makes it valid.

Main results:

* `KeySigner.exists_sign_of_gives` — every way leads through the signer's own signing;
* `KeySigner.presents_of_finished` — the form is the one of the algorithm;
* `KeySigner.valid_of_gives` — **every signature is valid**.
-/

set_option autoImplicit false

namespace ClaimSeal

open Run

variable {σ κ : Type}

/-- What is relied on of a private key: what it signs is valid under its public key, for the same
use and the same message, and on a named curve it answers with two numbers in the range of the
curve. When a signature is valid is left open. -/
structure PrivateKey.Honest (verify : κ → KeyUse → Bytes → Bytes → Prop) (key : PrivateKey σ κ) :
    Prop where
  verifies : ∀ use data b answer b', key.sign use data b = (.ok answer, b') →
    verify key.publicKey use data answer
  inRange : key.InRange

/-! ### The ways to a signature -/

/-- The signature of a claim comes out of a signer. -/
inductive Gives (s : Signer σ) (data : Bytes) (w : World σ) : Bytes → Prop
  | sign {signature : Bytes} {b : σ} (h : s.sign data w.backend = (.ok signature, b)) :
      Gives s data w signature
  | signClaim {signature : Bytes} {w' : World σ} (h : s.signClaim data w = (.ok signature, w')) :
      Gives s data w signature
  | threaded {signature : Bytes} {w' : World σ}
      (h : s.threaded.signClaim data w = (.ok signature, w')) : Gives s data w signature
  | signBytes {claim : SignedClaim} {w' : World σ}
      (h : Config.signBytes ⟨s⟩ data w = (.ok claim, w')) : Gives s data w claim.signature

namespace KeySigner

/-- A signer with a key tells what it has without touching the backend, so every way to a signature
leads through its own signing, from where the backend was. -/
theorem exists_sign_of_gives {s : KeySigner σ κ} {data signature : Bytes} {w : World σ}
    (h : Gives s.toSigner data w signature) :
    ∃ b, s.sign data w.backend = (.ok signature, b) := by
  have hclaim : ∀ {signature w'}, s.toSigner.signClaim data w = (.ok signature, w') →
      ∃ b, s.sign data w.backend = (.ok signature, b) := by
    intro signature w' h
    obtain ⟨_, b, b', hreserved, hsign, _, _⟩ := Signer.signClaim_eq_ok_iff.1 h
    obtain ⟨_, rfl⟩ := ok_eq_ok_iff.1 hreserved
    exact ⟨b', hsign⟩
  cases h with
  | sign h => exact ⟨_, h⟩
  | signClaim h => exact hclaim h
  | threaded h => exact hclaim (Signer.signClaim_threaded_eq_ok_iff.1 h)
  | signBytes h =>
      obtain ⟨_, _, hanswers, _⟩ := Config.signBytes_eq_ok_iff.1 h
      obtain ⟨b₁, b₂, b₃, b₄, b₅, _, h₁, h₂, h₃, h₄, hsign, _⟩ := hanswers.answers
      -- the four questions before leave the backend where it was
      obtain ⟨_, rfl⟩ := ok_eq_ok_iff.1 h₁
      obtain ⟨_, rfl⟩ := ok_eq_ok_iff.1 h₂
      obtain ⟨_, rfl⟩ := ok_eq_ok_iff.1 h₃
      obtain ⟨_, rfl⟩ := ok_eq_ok_iff.1 h₄
      exact ⟨b₅, hsign⟩

/-! ### The form of a signature -/

/-- How the answer of a key is given out: on an elliptic curve the two numbers of the answer, each
in as many bytes as a coordinate takes, and else the answer itself. -/
def Presents (s : KeySigner σ κ) (answer signature : Bytes) : Prop :=
  match s.alg.family with
  | .ecdsa => ∃ curve bits first second, s.key.family = .elliptic curve bits ∧
      signature = first ++ second ∧
      (first.length : Int) = (bits + 7) / 8 ∧ (second.length : Int) = (bits + 7) / 8 ∧
      answer = Der.encodeSequence
        [Der.encodeInteger (Bytes.toNat first), Der.encodeInteger (Bytes.toNat second)]
  | .rsaPss | .edwards => signature = answer

theorem presents_of_finished {s : KeySigner σ κ} {answer signature : Bytes} (huse : s.UsesKey)
    (hrange : ∀ name bits, s.key.family = .elliptic (Curve.Name.text name) bits →
      s.alg.family = .ecdsa → Ecdsa.IsSignature name.domain.size answer)
    (h : s.finished answer = .ok signature) : s.Presents answer signature := by
  unfold UsesKey at huse
  unfold Presents
  cases hf : s.alg.family with
  | ecdsa =>
      simp only [hf] at huse ⊢
      obtain ⟨name, bits, _, _, hfamily, _, _⟩ := huse
      obtain ⟨r, t, _, hr, _, ht, hanswer⟩ := hrange name bits hfamily hf
      rw [finished_of_elliptic hf hfamily, plainCoordinates_eq_ok_iff] at h
      obtain ⟨r', t', width, hpair, hwidth, hr', ht', rfl⟩ := h
      -- the two numbers that are read are those that the key has written
      rw [hanswer, coordinates?_encodeSequence hr ht] at hpair
      simp only [Option.some.injEq, Prod.mk.injEq, Int.natCast_inj] at hpair
      obtain ⟨rfl, rfl⟩ := hpair
      refine ⟨name.text, bits, Bytes.ofNat width r, Bytes.ofNat width t, hfamily, rfl, ?_, ?_, ?_⟩
      · rw [Bytes.length_ofNat]
        exact hwidth.symm
      · rw [Bytes.length_ofNat]
        exact hwidth.symm
      · rw [Bytes.toNat_ofNat_of_lt hr', Bytes.toNat_ofNat_of_lt ht']
        exact hanswer
  | rsaPss =>
      rw [finished_of_ne_ecdsa (by simp [hf])] at h
      cases h
      rfl
  | edwards =>
      rw [finished_of_ne_ecdsa (by simp [hf])] at h
      cases h
      rfl

/-! ### Validity -/

/-- A signature is a valid one of a claim: the signer's key made it of this claim, in the way that
the algorithm of the signer asks for, it is given out in the form of that algorithm, and it is valid
under the public key of the last certificate. -/
structure Valid (verify : κ → KeyUse → Bytes → Bytes → Prop) (P : Certificate κ → Prop)
    (s : KeySigner σ κ) (data : Bytes) (b : σ) (signature : Bytes) : Prop where
  alg : ∀ v, s.toSigner.alg v = (.ok (some s.alg.name), v)
  use : s.UsesKey
  signed : ∃ (own : Certificate κ) (others : List Bytes) (k : κ) (answer : Bytes) (b' : σ),
    P own ∧ (∀ v, s.toSigner.certs v = (.ok (others ++ [own.der]), v)) ∧ own.publicKey = .ok k ∧
    s.key.sign s.keyUse data b = (.ok answer, b') ∧ s.Presents answer signature ∧
    verify k s.keyUse data answer

theorem Sound.valid {verify : κ → KeyUse → Bytes → Bytes → Prop} {P : Certificate κ → Prop}
    {s : KeySigner σ κ} {data signature : Bytes} {b b' : σ} (hs : Sound P s)
    (hkey : s.key.Honest verify) (h : s.sign data b = (.ok signature, b')) :
    Valid verify P s data b signature := by
  obtain ⟨answer, hanswer, hfinished, _⟩ := sign_eq_ok_iff.1 h
  have huse : s.UsesKey := usesKey_of_fits hs.fits
  have hrange : ∀ name bits, s.key.family = .elliptic (Curve.Name.text name) bits →
      s.alg.family = .ecdsa → Ecdsa.IsSignature name.domain.size answer := by
    intro name bits hfamily hf
    have huse' := huse
    simp only [UsesKey, hf] at huse'
    obtain ⟨_, _, digest, _, _, _, hdigest⟩ := huse'
    rw [hdigest] at hanswer
    exact hkey.inRange name bits digest data b answer b' hfamily hanswer
  exact {
    alg := fun v => rfl
    use := huse
    signed := ⟨s.chain.own, s.chain.others.map Certificate.der, s.key.publicKey, answer, b',
      hs.property, fun v => rfl, hs.publicKey, hanswer,
      presents_of_finished huse hrange hfinished, hkey.verifies _ _ _ _ _ hanswer⟩ }

/-- **Every signature is valid.**  However a signer was built, whatever revocation responses were
offered to it, and whichever way a signature comes out of it: if its key is honest, the signature is
a valid one of exactly the given claim under the last certificate. -/
theorem valid_of_gives {verify : κ → KeyUse → Bytes → Bytes → Prop} {P : Certificate κ → Prop}
    {s : KeySigner σ κ} {responses : List Bytes} {data signature : Bytes} {w : World σ}
    (hmade : Made P s) (hkey : s.key.Honest verify)
    (h : Gives (responses.foldl offer s).toSigner data w signature) :
    Valid verify P (responses.foldl offer s) data w.backend signature := by
  obtain ⟨b, hsign⟩ := exists_sign_of_gives h
  obtain ⟨ocsp, hsame⟩ := exists_offers_eq s responses
  have hsound := hmade.sound.offers responses
  rw [hsame] at hsign hsound ⊢
  exact hsound.valid hkey hsign

/-- When a signature of the sample is valid. -/
def Sample.Verifies (k : Nat) (_ : KeyUse) (data answer : Bytes) : Prop :=
  answer = Sample.signature k data

theorem Sample.honest_key : Sample.key.Honest Sample.Verifies where
  verifies := by
    intro use data b answer b' h
    exact (ok_eq_ok_iff.1 h).1.symm
  inRange := by
    intro name bits digest data b answer b' _ h
    have hroom : 101 < Nat.pow 2 name.domain.size := by cases name <;> decide +kernel
    exact ⟨7, data.length % 100 + 1, by decide, by omega, by omega, by omega,
      (ok_eq_ok_iff.1 h).1.symm⟩

/-- The sample signs a claim of five bytes in a worker. -/
theorem valid_of_gives_sample :
    Made (· ∈ Sample.certificates) Sample.signer ∧ Sample.key.Honest Sample.Verifies ∧
      Gives ([Sample.response 301, Sample.response 300].foldl offer Sample.signer).toSigner
        (ascii "claim") Sample.world (Bytes.ofNat 32 7 ++ Bytes.ofNat 32 6) ∧
      Valid Sample.Verifies (· ∈ Sample.certificates)
        ([Sample.response 301, Sample.response 300].foldl offer Sample.signer)
        (ascii "claim") () (Bytes.ofNat 32 7 ++ Bytes.ofNat 32 6) := by
  have hgives : Gives
      ([Sample.response 301, Sample.response 300].foldl offer Sample.signer).toSigner
      (ascii "claim") Sample.world (Bytes.ofNat 32 7 ++ Bytes.ofNat 32 6) := .threaded rfl
  exact ⟨Sample.made_signer, Sample.honest_key, hgives,
    valid_of_gives Sample.made_signer Sample.honest_key hgives⟩

end KeySigner

end ClaimSeal

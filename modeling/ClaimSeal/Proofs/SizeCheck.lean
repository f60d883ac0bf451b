import ClaimSeal.KeySigner
import ClaimSeal.Proofs.Operation

/-!
**What a signed claim reserves and what it holds.**

A signer is asked for its reservation twice when a claim is signed: the first answer is recorded in
the signed claim, the second one is what the signature is checked against.  A signer whose
reservation never changes gives the same answer both times, so the signature fits into what is
recorded.  If the second answer is the larger one, the signature may not fit.

Main definitions:

* `Signer.Steady` — the reservation of a signer never changes;
* `Signer.varying` — a signer whose reservations are given one by one.

Main results:

* `Signer.steady_placeholder`, `KeySigner.steady_toSigner` — the signers of the library are steady;
* `Config.signature_fits` — **a signature fits into the reservation that it was checked against**,
  and into the one that is recorded if the signer is steady;
* `Config.not_forall_signature_fits` — without that it may be too large for what is recorded.
-/

set_option autoImplicit false

namespace ClaimSeal

open Run

variable {σ κ : Type}

/-! ### Steady signers -/

/-- A signer whose reservation never changes: whenever it is told, it is the same. -/
def Signer.Steady (s : Signer σ) : Prop :=
  ∃ size, ∀ b b' answer, s.reserveSize b = (.ok answer, b') → answer = size

theorem Signer.steady_placeholder : (Signer.placeholder : Signer σ).Steady := by
  refine ⟨placeholderSize, ?_⟩
  intro b b' answer h
  exact (ok_eq_ok_iff.1 h).1.symm

theorem KeySigner.steady_toSigner (s : KeySigner σ κ) : s.toSigner.Steady := by
  refine ⟨s.reserveSize, ?_⟩
  intro b b' answer h
  exact (ok_eq_ok_iff.1 h).1.symm

/-- The two reservations of a steady signer that make up a signed claim are the same. -/
theorem Config.Answers.checked_eq {s : Signer σ} {data : Bytes} {b b' : σ} {claim : SignedClaim}
    {checked : Int} (h : Answers s data b b' claim checked) (hs : s.Steady) :
    checked = claim.reserveSize := by
  obtain ⟨size, hsize⟩ := hs
  obtain ⟨⟨b₁, b₂, b₃, b₄, b₅, b₆, hrecorded, _, _, hchecked, _⟩, _⟩ := h
  rw [hsize _ _ _ hrecorded, hsize _ _ _ hchecked]

/-! ### The recorded reservation -/

/-- **A signature fits into the reservation that it was checked against**, which is the second one
that the signer was asked for; so it fits into the first one, which is recorded, unless the second
one is larger, and always if the signer is steady. -/
theorem Config.signature_fits {c : Config σ} {w w' : World σ} {claim : SignedClaim}
    (h : (∃ data, c.signBytes data w = (.ok claim, w')) ∨
      ∃ claimPath signaturePath, c.sign claimPath signaturePath w = (.ok claim, w')) :
    (∃ data b checked, Answers c.signer data w.backend b claim checked ∧
      (claim.signature.length : Int) ≤ checked ∧
      (checked ≤ claim.reserveSize → (claim.signature.length : Int) ≤ claim.reserveSize)) ∧
    (c.signer.Steady → (claim.signature.length : Int) ≤ claim.reserveSize) := by
  -- a claim in a file is signed from the same state as its content would be
  have hbytes : ∃ data v, c.signBytes data w = (.ok claim, v) := by
    rcases h with ⟨data, h⟩ | ⟨_, _, h⟩
    · exact ⟨data, w', h⟩
    · exact signBytes_of_sign h
  obtain ⟨data, v, hrun⟩ := hbytes
  obtain ⟨b, checked, hanswers, _⟩ := signBytes_eq_ok_iff.1 hrun
  constructor
  · refine ⟨data, b, checked, hanswers, hanswers.fits, ?_⟩
    intro hle
    exact Int.le_trans hanswers.fits hle
  · intro hsteady
    rw [← hanswers.checked_eq hsteady]
    exact hanswers.fits

/-! ### A signer that changes its reservation -/

/-- A signer with a fixed signature whose reservations are the numbers of a list, one after the
other, the last one for ever. -/
def Signer.varying (signature : Bytes) : Signer (List Int) where
  sign _ := pure signature
  alg := pure none
  certs := pure []
  reserveSize := fun sizes =>
    match sizes with
    | [] => (.ok 0, [])
    | [size] => (.ok size, [size])
    | size :: rest => (.ok size, rest)

/-- What a signer that varies signs, from a list of reservations on. -/
def Config.varyingClaim (reserveSize : Int) : SignedClaim where
  signature := ascii "abcde"
  alg := none
  certs := []
  reserveSize
  timeAuthorityUrl := none
  ocspVal := none

/-- A signature of five bytes fits, as five bytes are reserved when it is checked. -/
theorem Config.signature_fits_varying :
    (∃ w', Config.signBytes ⟨.varying (ascii "abcde")⟩ [1, 2, 3] ⟨⟨[], [], []⟩, [], [7, 5]⟩ =
      (.ok (varyingClaim 7), w')) ∧
    (∃ data b checked,
      Answers (.varying (ascii "abcde")) data [7, 5] b (varyingClaim 7) checked ∧
      ((varyingClaim 7).signature.length : Int) ≤ checked ∧
      (checked ≤ (varyingClaim 7).reserveSize →
        ((varyingClaim 7).signature.length : Int) ≤ (varyingClaim 7).reserveSize)) ∧
    ((Signer.varying (ascii "abcde")).Steady →
      ((varyingClaim 7).signature.length : Int) ≤ (varyingClaim 7).reserveSize) := by
  have hrun : ∃ w', Config.signBytes ⟨.varying (ascii "abcde")⟩ [1, 2, 3]
      ⟨⟨[], [], []⟩, [], [7, 5]⟩ = (.ok (varyingClaim 7), w') := ⟨_, rfl⟩
  refine ⟨hrun, ?_⟩
  obtain ⟨_, hrun⟩ := hrun
  exact signature_fits (.inl ⟨_, hrun⟩)

/-- A signature may be larger than the recorded reservation: three bytes are recorded, and ten are
reserved by the time that five bytes are checked. -/
theorem Config.not_forall_signature_fits :
    ¬ ∀ (σ : Type) (c : Config σ) (data : Bytes) (w w' : World σ) (claim : SignedClaim),
      c.signBytes data w = (.ok claim, w') →
        (claim.signature.length : Int) ≤ claim.reserveSize := by
  intro hfits
  have hrun : Config.signBytes ⟨.varying (ascii "abcde")⟩ [1, 2, 3] ⟨⟨[], [], []⟩, [], [3, 10]⟩ =
      (.ok (varyingClaim 3),
        ⟨⟨[], [], []⟩, [⟨.debug, signedLine [1, 2, 3] (ascii "abcde") 10⟩], [10]⟩) := rfl
  exact absurd (hfits _ _ _ _ _ _ hrun) (by decide)

end ClaimSeal

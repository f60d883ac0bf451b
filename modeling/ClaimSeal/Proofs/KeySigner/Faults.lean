import ClaimSeal.Proofs.KeySigner.Invariant
import ClaimSeal.Proofs.KeySigner.Reservation

/-!
**What gets out of signing.**

Whatever a key does, its signer gives a signature that fits into the reservation or says that
signing failed, with two exceptions.  A fault of the key that is none of the three kinds expected of
it gets out as it is.  And a key on an elliptic curve may answer with a number that has no room in
the width of a coordinate, which is noticed only when it is written.

Main definitions:

* `KeySigner.Contained` — a signature that fits, or a failure that says so;
* `KeySigner.Escapes` — **what gets out instead**.

Main results:

* `KeySigner.contained_sign_iff` — **signing is contained unless something gets out**;
* `KeySigner.not_forall_contained` — something may;
* `KeySigner.contained_of_loaded` — nothing gets out of a signer from credentials.
-/

set_option autoImplicit false

namespace ClaimSeal

open Run

variable {σ κ : Type}

namespace KeySigner

/-- Signing gave a signature that fits into the reservation, or failed and says so. -/
def Contained (s : KeySigner σ κ) (run : Except Failure Bytes × σ) : Prop :=
  (∃ signature b, run = (.ok signature, b) ∧ signature.length ≤ s.reserveSize) ∨
    ∃ f b, run = (.error f, b) ∧ f.isSigning = true

/-- What gets out of signing, and the state that it leaves: a fault of the key that is not expected
of it, or the first number of its answer that has no room. -/
inductive Escapes (s : KeySigner σ κ) (data : Bytes) (b : σ) : Failure → σ → Prop
  | fault {f : Fault} {b' : σ} (hkey : s.key.sign s.keyUse data b = (.error f, b'))
      (hunexpected : isSigningFault f = false) (hkind : f.kind ≠ .signing) :
      Escapes s data b (.fault f) b'
  | number {answer : Bytes} {b' : σ} {curve : Text} {bits r t n : Int} {width : Nat}
      (hkey : s.key.sign s.keyUse data b = (.ok answer, b')) (halg : s.alg.family = .ecdsa)
      (hfamily : s.key.family = .elliptic curve bits)
      (hpair : coordinates? answer = some (r, t)) (hwidth : widthOfBits bits = width)
      (hn : FirstWithoutRoom width r t n) :
      Escapes s data b (.coordinate (n < 0)) b'

theorem Escapes.sign_eq {s : KeySigner σ κ} {data : Bytes} {b b' : σ} {f : Failure}
    (h : Escapes s data b f b') : s.sign data b = (.error f, b') := by
  cases h with
  | fault hkey hunexpected hkind =>
      rw [sign_of_fault hkey, hunexpected]
      rfl
  | @number answer _ curve bits r t n width hkey halg hfamily hpair hwidth hn =>
      have hplain : plainCoordinates s.alg bits answer = .error (.coordinate (n < 0)) :=
        plainCoordinates_eq_error_iff.2 (.inr ⟨r, t, n, width, hpair, hwidth, hn, rfl⟩)
      have hfinished : s.finished answer = .error (.coordinate (n < 0)) :=
        finished_eq_error_iff.2 ⟨halg, curve, bits, hfamily, hplain⟩
      rw [sign_of_answer hkey, hfinished]
      rfl

theorem Escapes.not_isSigning {s : KeySigner σ κ} {data : Bytes} {b b' : σ} {f : Failure}
    (h : Escapes s data b f b') : f.isSigning = false := by
  cases h with
  | fault hkey hunexpected hkind => exact decide_eq_false hkind
  | number hkey halg hfamily hpair hwidth hn => rfl

theorem Escapes.not_contained {s : KeySigner σ κ} {data : Bytes} {b b' : σ} {f : Failure}
    (h : Escapes s data b f b') : ¬ s.Contained (s.sign data b) := by
  rw [h.sign_eq]
  rintro (⟨signature, b'', hrun, _⟩ | ⟨f', b'', hrun, hf'⟩)
  · exact error_ne_ok hrun
  · obtain ⟨rfl, _⟩ := error_eq_error_iff.1 hrun
    rw [h.not_isSigning] at hf'
    cases hf'

/-- A fault of the key is reported as a failure to sign or gets out. -/
theorem contained_of_fault {s : KeySigner σ κ} {data : Bytes} {b b' : σ} {f : Fault}
    (hkey : s.key.sign s.keyUse data b = (.error f, b'))
    (hnone : ∀ f b', ¬ Escapes s data b f b') : s.Contained (s.sign data b) := by
  rw [sign_of_fault hkey]
  refine .inr ⟨_, _, rfl, ?_⟩
  cases hexpected : isSigningFault f with
  | true => rfl
  | false =>
      by_cases hkind : f.kind = .signing
      · exact decide_eq_true hkind
      · exact absurd (.fault hkey hexpected hkind) (hnone _ _)

/-- An answer of the key is given out if it fits, else it is a failure to sign, or a number gets
out. -/
theorem contained_of_answer {s : KeySigner σ κ} {data answer : Bytes} {b b' : σ}
    (hkey : s.key.sign s.keyUse data b = (.ok answer, b'))
    (hnone : ∀ f b', ¬ Escapes s data b f b') : s.Contained (s.sign data b) := by
  rw [sign_of_answer hkey]
  cases hfinished : s.finished answer with
  | error f =>
      obtain ⟨halg, curve, bits, hfamily, hplain⟩ := finished_eq_error_iff.1 hfinished
      rcases plainCoordinates_eq_error_iff.1 hplain with
        ⟨rfl, _⟩ | ⟨r, t, n, width, hpair, hwidth, hn, rfl⟩
      · exact .inr ⟨_, _, rfl, rfl⟩
      · exact absurd (.number hkey halg hfamily hpair hwidth hn) (hnone _ _)
  | ok signature =>
      by_cases hle : (signature.length : Int) ≤ s.reserveSize
      · refine .inl ⟨signature, b', ?_, Int.ofNat_le.1 hle⟩
        have hsize := checkSize_eq_ok_iff.2 ⟨hle, rfl⟩
        exact congrArg (·, b') hsize
      · refine .inr ⟨.oversized signature.length s.reserveSize, b', ?_, rfl⟩
        have hsize : checkSize signature s.reserveSize =
            .error (.oversized signature.length s.reserveSize) := if_neg hle
        exact congrArg (·, b') hsize

/-- **Signing gives a signature that fits or says that it failed, unless something gets out**, which
is then what it fails with. -/
theorem contained_sign_iff (s : KeySigner σ κ) (data : Bytes) (b : σ) :
    (s.Contained (s.sign data b) ↔ ∀ f b', ¬ Escapes s data b f b') ∧
    ∀ f b', Escapes s data b f b' → s.sign data b = (.error f, b') := by
  refine ⟨⟨?_, ?_⟩, fun f b' h => h.sign_eq⟩
  · intro hcontained f b' h
    exact h.not_contained hcontained
  · intro hnone
    rcases hkey : s.key.sign s.keyUse data b with ⟨r, b'⟩
    cases r with
    | error f => exact contained_of_fault hkey hnone
    | ok answer => exact contained_of_answer hkey hnone

/-- Nothing gets out of a signer from credentials: its key answers in the width of its curve, and
all that it complains about is to be used in a way that is not its own. -/
theorem contained_of_loaded {s : KeySigner σ PublicKey} (h : Loaded s) (data : Bytes) (b : σ) :
    s.Contained (s.sign data b) := by
  rcases hkey : s.key.sign s.keyUse data b with ⟨r, b'⟩
  cases r with
  | error f =>
      obtain ⟨material, hmaterial⟩ := h.exists_material
      rw [hmaterial] at hkey
      obtain rfl := KeyMaterial.eq_misuse_of_sign hkey
      rw [← hmaterial] at hkey
      rw [sign_of_fault hkey]
      exact .inr ⟨_, _, rfl, rfl⟩
  | ok answer =>
      obtain ⟨signature, hfinished, hle⟩ :=
        exists_finished (usesKey_of_fits h.sound.fits) h.sized h.measured hkey
      exact .inl ⟨signature, b', sign_eq_ok_iff.2 ⟨answer, hkey, hfinished, hle⟩, hle⟩

/-! ### A number that gets out -/

/-- An answer whose first number takes one byte more than a coordinate of the curve. -/
def Sample.wideAnswer : Bytes :=
  Der.encodeSequence [Der.encodeInteger (Bytes.count 32), Der.encodeInteger 1]

/-- The signer of the sample, with a key that answers with this. -/
def Sample.wideSigner : KeySigner Unit Nat :=
  { Sample.signer with key := { Sample.key with sign := fun _ _ => pure Sample.wideAnswer } }

/-- Not all that a key may do is contained. -/
theorem not_forall_contained :
    ¬ ∀ (s : KeySigner Unit Nat) (data : Bytes) (b : Unit), s.Contained (s.sign data b) := by
  intro h
  have hroom : FirstWithoutRoom 32 (Bytes.count 32) 1 (Bytes.count 32) :=
    ⟨fun hroom => absurd hroom.2 (Int.lt_irrefl _), .inl rfl⟩
  have hpair : coordinates? Sample.wideAnswer = some ((Bytes.count 32 : Int), 1) := by decide
  have hescapes : Escapes Sample.wideSigner [] () (.coordinate false) () :=
    .number rfl rfl rfl hpair rfl hroom
  exact hescapes.not_contained (h _ _ _)

end KeySigner

end ClaimSeal

import ClaimSeal.KeySigner
import ClaimSeal.Proofs.Answers
import ClaimSeal.Proofs.Encoding
import ClaimSeal.Proofs.Operation

/-!
**Signatures as keys make them and as signers give them out.**

A key on an elliptic curve answers with two numbers as a sequence; the signer takes them apart and
writes each of them in the width of a coordinate.  Answers of other keys are given out as they are.
Either way the signature has to fit into the reservation.

Main definitions:

* `KeySigner.HasRoom`, `KeySigner.FirstWithoutRoom` — numbers that can be written, and the first one
  that cannot.

Main results:

* `KeySigner.coordinates?_encodeSequence` — the two numbers of an answer read back;
* `KeySigner.plainCoordinates_eq_ok_iff`, `KeySigner.plainCoordinates_eq_error_iff` — the form in
  which they are given out, and why they are not;
* `KeySigner.sign_eq_ok_iff` — **what it takes to sign**;
* `KeySigner.sign_of_answer` — what becomes of an answer.
-/

set_option autoImplicit false

namespace ClaimSeal

open Run

variable {σ κ : Type}

namespace KeySigner

/-! ### Taking the two numbers apart -/

/-- A number in the range of a named curve has room in 66 bytes, as many as the widest one takes. -/
theorem lt_count_of_lt_size {name : Curve.Name} {n : Nat} (h : n < Nat.pow 2 name.domain.size) :
    n < Bytes.count 66 :=
  Bytes.lt_count_of_lt_pow h (Nat.le_trans name.size_le (by decide))

theorem isPlain_integerContents {n : Nat} (h : n < Bytes.count 66) :
    Ber.IsPlain 0x02 (Der.integerContents n) := by
  have hle : (Der.integerContents n).length ≤ 67 := Der.length_integerContents_le h
  have hroom : 67 < Bytes.count 126 := by decide
  exact ⟨by decide, Nat.lt_of_le_of_lt hle hroom⟩

/-- A number of a signature takes no more than 69 bytes: its tag and its length take one each. -/
theorem length_encodeInteger_le {n : Nat} (h : n < Bytes.count 66) :
    (Der.encodeInteger n).length ≤ 69 := by
  have hle : (Der.integerContents n).length ≤ 67 := Der.length_integerContents_le h
  rw [Der.encodeInteger, Der.encode, Der.encodeLength, if_pos (by omega)]
  simp only [List.cons_append, List.nil_append, List.length_cons]
  omega

/-- The two numbers of an answer read back, whatever they are, if the lengths can be told. -/
theorem coordinates?_of_isPlain {r s : Int} (hr : Ber.IsPlain 0x02 (Der.integerContents r))
    (hs : Ber.IsPlain 0x02 (Der.integerContents s))
    (hwhole : Ber.IsPlain 0x30 [Der.encodeInteger r, Der.encodeInteger s].flatten) :
    coordinates? (Der.encodeSequence [Der.encodeInteger r, Der.encodeInteger s]) =
      some (r, s) := by
  -- the two parts, as leading bytes and contents
  let parts : List (UInt8 × Bytes) := [(0x02, Der.integerContents r), (0x02, Der.integerContents s)]
  have hparts : ∀ p ∈ parts, Ber.IsPlain p.1 p.2 := by
    intro p hp
    rcases List.mem_cons.1 hp with rfl | hp
    · exact hr
    · rcases List.mem_singleton.1 hp with rfl
      exact hs
  have hfirst := Ber.first?_encode hwhole []
  have hsequence : (Ber.Element.plain 0x30
      [Der.encodeInteger r, Der.encodeInteger s].flatten).sequence? =
      some [.plain 0x02 (Der.integerContents r), .plain 0x02 (Der.integerContents s)] :=
    Ber.Element.sequence?_encodeSequence hparts
  rw [List.append_nil] at hfirst
  rw [coordinates?, Der.encodeSequence, hfirst]
  simp only [Option.bind_eq_bind, Option.bind_some, Ber.Element.record?, hsequence]
  have hr' := Der.toInt_integerContents r
  have hs' := Der.toInt_integerContents s
  simp [Ber.assign?, Ber.Element.integer?, Ber.Element.plain, hr', hs']

/-- The two numbers of an answer read back. -/
theorem coordinates?_encodeSequence {name : Curve.Name} {r s : Nat}
    (hr : r < Nat.pow 2 name.domain.size) (hs : s < Nat.pow 2 name.domain.size) :
    coordinates? (Der.encodeSequence [Der.encodeInteger r, Der.encodeInteger s]) =
      some ((r : Int), (s : Int)) := by
  replace hr := lt_count_of_lt_size hr
  replace hs := lt_count_of_lt_size hs
  refine coordinates?_of_isPlain (isPlain_integerContents hr) (isPlain_integerContents hs) ?_
  have hroom : 138 < Bytes.count 126 := by decide
  have hrlen := length_encodeInteger_le hr
  have hslen := length_encodeInteger_le hs
  refine ⟨by decide, ?_⟩
  simp only [List.flatten_cons, List.flatten_nil, List.length_append, List.length_nil]
  omega

/-! ### Numbers of a fixed width -/

theorem fixedWidth_eq_ok_iff {width : Nat} {n : Int} {b : Bytes} :
    fixedWidth width n = .ok b ↔
      ∃ m : Nat, n = m ∧ m < Bytes.count width ∧ b = Bytes.ofNat width m := by
  rw [fixedWidth]
  constructor
  · intro h
    split at h
    · cases h
    · split at h
      · cases h
      · cases h
        exact ⟨n.toNat, by omega, by omega, rfl⟩
  · rintro ⟨m, rfl, hm, rfl⟩
    rw [if_neg (by omega), Int.toNat_natCast, if_neg (by omega)]

/-- A number has room in so many bytes. -/
def HasRoom (width : Nat) (n : Int) : Prop := 0 ≤ n ∧ n < Bytes.count width

/-- A number without room is reported, and whether it is negative. -/
theorem fixedWidth_eq_error_iff {width : Nat} {n : Int} {f : Failure} :
    fixedWidth width n = .error f ↔ ¬ HasRoom width n ∧ f = .coordinate (n < 0) := by
  rw [fixedWidth, HasRoom]
  split
  · next hneg =>
      have hroom : ¬(0 ≤ n ∧ n < Bytes.count width) := by omega
      simp [hneg, hroom, eq_comm]
  · next hneg =>
      split
      · next hlarge =>
          have hroom : ¬(0 ≤ n ∧ n < Bytes.count width) := by omega
          simp [hneg, hroom, eq_comm]
      · next hsmall =>
          have hroom : 0 ≤ n ∧ n < Bytes.count width := by omega
          simp [hroom]

theorem exists_fixedWidth_iff {width : Nat} {n : Int} :
    (∃ b, fixedWidth width n = .ok b) ↔ HasRoom width n := by
  constructor
  · rintro ⟨b, h⟩
    obtain ⟨m, rfl, hm, _⟩ := fixedWidth_eq_ok_iff.1 h
    exact ⟨Int.natCast_nonneg m, Int.ofNat_lt.2 hm⟩
  · rintro ⟨hneg, hlt⟩
    exact ⟨_, fixedWidth_eq_ok_iff.2 ⟨n.toNat, by omega, by omega, rfl⟩⟩

/-- A signature on an elliptic curve is given out as its two numbers, each in the width of a
coordinate. -/
theorem plainCoordinates_eq_ok_iff {alg : Algorithm} {bits : Int} {answer signature : Bytes} :
    plainCoordinates alg bits answer = .ok signature ↔
      ∃ r s width : Nat, coordinates? answer = some ((r : Int), (s : Int)) ∧
        widthOfBits bits = width ∧ r < Bytes.count width ∧ s < Bytes.count width ∧
        signature = Bytes.ofNat width r ++ Bytes.ofNat width s := by
  rw [plainCoordinates]
  cases hpair : coordinates? answer with
  | none => simp
  | some pair =>
      obtain ⟨r, s⟩ := pair
      constructor
      · intro h
        simp only at h
        split at h
        · cases h
        · next hwidth =>
            obtain ⟨first, hfirst, h⟩ := Outcome.bind_eq_ok_iff.1 h
            obtain ⟨second, hsecond, h⟩ := Outcome.bind_eq_ok_iff.1 h
            cases h
            obtain ⟨r, rfl, hr, rfl⟩ := fixedWidth_eq_ok_iff.1 hfirst
            obtain ⟨s, rfl, hs, rfl⟩ := fixedWidth_eq_ok_iff.1 hsecond
            exact ⟨r, s, _, rfl, by omega, hr, hs, rfl⟩
      · rintro ⟨r', s', width, heq, hwidth, hr, hs, rfl⟩
        cases heq
        simp only [hwidth]
        rw [if_neg (by omega), Int.toNat_natCast]
        exact Outcome.bind_eq_ok_iff.2 ⟨_, fixedWidth_eq_ok_iff.2 ⟨r', rfl, hr, rfl⟩,
          Outcome.bind_eq_ok_iff.2 ⟨_, fixedWidth_eq_ok_iff.2 ⟨s', rfl, hs, rfl⟩, rfl⟩⟩

/-- The first one of two numbers that has no room. -/
def FirstWithoutRoom (width : Nat) (r s n : Int) : Prop :=
  ¬ HasRoom width n ∧ (n = r ∨ HasRoom width r ∧ n = s)

/-- What is no sequence of two numbers is a failure to sign, and so is a curve of a negative size.
Else the first number is reported that has no room. -/
theorem plainCoordinates_eq_error_iff {alg : Algorithm} {bits : Int} {answer : Bytes}
    {f : Failure} :
    plainCoordinates alg bits answer = .error f ↔
      (f = .keyUse alg none ∧ (coordinates? answer = none ∨ widthOfBits bits < 0)) ∨
      ∃ r s n, ∃ width : Nat, coordinates? answer = some (r, s) ∧ widthOfBits bits = width ∧
        FirstWithoutRoom width r s n ∧ f = .coordinate (n < 0) := by
  rw [plainCoordinates]
  cases hpair : coordinates? answer with
  | none => simp [eq_comm]
  | some pair =>
      obtain ⟨r, s⟩ := pair
      simp only
      split
      · next hwidth =>
          constructor
          · intro h
            cases h
            exact .inl ⟨rfl, .inr hwidth⟩
          · rintro (⟨rfl, _⟩ | ⟨_, _, _, width, _, hnonneg, _⟩)
            · rfl
            · omega
      · next hwidth =>
          obtain ⟨width, hnat⟩ := Int.eq_ofNat_of_zero_le (Int.not_lt.1 hwidth)
          simp only [hnat, Int.toNat_natCast, Outcome.bind_eq_error_iff, fixedWidth_eq_error_iff]
          constructor
          · rintro (⟨hr, rfl⟩ | ⟨first, hfirst, ⟨hs, rfl⟩ | ⟨_, _, h⟩⟩)
            · exact .inr ⟨r, s, r, width, rfl, rfl, ⟨hr, .inl rfl⟩, rfl⟩
            · have hr : HasRoom width r := exists_fixedWidth_iff.1 ⟨first, hfirst⟩
              exact .inr ⟨r, s, s, width, rfl, rfl, ⟨hs, .inr ⟨hr, rfl⟩⟩, rfl⟩
            · cases h
          · rintro (⟨_, h | h⟩ | ⟨r', s', n, width', heq, hwidth', ⟨hn, hfirst⟩, rfl⟩)
            · cases h
            · omega
            · cases heq
              obtain rfl : width' = width := by omega
              rcases hfirst with rfl | ⟨hr, rfl⟩
              · exact .inl ⟨hn, rfl⟩
              · obtain ⟨first, hfirst⟩ := exists_fixedWidth_iff.2 hr
                exact .inr ⟨first, hfirst, .inl ⟨hn, rfl⟩⟩

/-! ### Signing -/

theorem finished_of_elliptic {s : KeySigner σ κ} {curve : Text} {bits : Int}
    (halg : s.alg.family = .ecdsa) (hkey : s.key.family = .elliptic curve bits) (answer : Bytes) :
    s.finished answer = plainCoordinates s.alg bits answer := by
  simp only [finished, halg, hkey]

theorem finished_of_ne_ecdsa {s : KeySigner σ κ} (halg : s.alg.family ≠ .ecdsa) (answer : Bytes) :
    s.finished answer = .ok answer := by
  rw [finished]
  split
  · next h _ => exact absurd h halg
  · rfl

/-- Only on an elliptic curve an answer may be such that it cannot be given out. -/
theorem finished_eq_error_iff {s : KeySigner σ κ} {answer : Bytes} {f : Failure} :
    s.finished answer = .error f ↔ s.alg.family = .ecdsa ∧ ∃ curve bits,
      s.key.family = .elliptic curve bits ∧ plainCoordinates s.alg bits answer = .error f := by
  constructor
  · intro h
    rw [finished] at h
    split at h
    · next curve bits halg hkey => exact ⟨halg, curve, bits, hkey, h⟩
    · cases h
  · rintro ⟨halg, curve, bits, hkey, h⟩
    rw [finished_of_elliptic halg hkey]
    exact h

theorem useKey_eq_ok_iff {s : KeySigner σ κ} {data answer : Bytes} {b b' : σ} :
    s.useKey data b = (.ok answer, b') ↔ s.key.sign s.keyUse data b = (.ok answer, b') := by
  rw [useKey]
  split
  · next h =>
      rw [h]
      exact ok_eq_ok_iff.trans ok_eq_ok_iff.symm
  · next h =>
      rw [h]
      constructor
      · intro h
        exact absurd h error_ne_ok
      · intro h
        exact absurd h error_ne_ok

/-- A signer gives a signature if its key answers, the answer can be given out, and what is given
out fits into the reservation. -/
theorem sign_eq_ok_iff {s : KeySigner σ κ} {data signature : Bytes} {b b' : σ} :
    s.sign data b = (.ok signature, b') ↔
      ∃ answer, s.key.sign s.keyUse data b = (.ok answer, b') ∧
        s.finished answer = .ok signature ∧ signature.length ≤ s.reserveSize := by
  rw [sign, bind_eq_ok_iff]
  constructor
  · rintro ⟨answer, v, hanswer, h⟩
    rw [useKey_eq_ok_iff] at hanswer
    cases hfinished : s.finished answer with
    | error f =>
        simp only [hfinished] at h
        exact absurd h throw_ne_ok
    | ok finished =>
        simp only [hfinished] at h
        cases hsize : checkSize finished s.reserveSize with
        | error f =>
            simp only [hsize] at h
            exact absurd h throw_ne_ok
        | ok passed =>
            simp only [hsize, pure_eq_ok_iff] at h
            obtain ⟨rfl, rfl⟩ := h
            obtain ⟨hle, rfl⟩ := checkSize_eq_ok_iff.1 hsize
            exact ⟨answer, hanswer, hfinished, Int.ofNat_le.1 hle⟩
  · rintro ⟨answer, hanswer, hfinished, hle⟩
    refine ⟨answer, b', useKey_eq_ok_iff.2 hanswer, ?_⟩
    have hsize : checkSize signature s.reserveSize = .ok signature :=
      checkSize_eq_ok_iff.2 ⟨Int.ofNat_le.2 hle, rfl⟩
    simp only [hfinished, hsize]
    exact pure_eq_ok_iff.2 ⟨rfl, rfl⟩

/-- What becomes of an answer of the key. -/
theorem sign_of_answer {s : KeySigner σ κ} {data answer : Bytes} {b b' : σ}
    (h : s.key.sign s.keyUse data b = (.ok answer, b')) :
    s.sign data b =
      (s.finished answer >>= fun signature => checkSize signature s.reserveSize, b') := by
  rw [sign, bind_apply, useKey_eq_ok_iff.2 h]
  cases hfinished : s.finished answer with
  | error f =>
      simp only [hfinished]
      rfl
  | ok signature =>
      simp only [hfinished]
      cases hsize : checkSize signature s.reserveSize with
      | error f =>
          simp only [bind, Except.bind, hsize]
          rfl
      | ok passed =>
          simp only [bind, Except.bind, hsize]
          rfl

end KeySigner

end ClaimSeal

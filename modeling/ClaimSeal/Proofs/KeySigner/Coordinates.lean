import ClaimSeal.Proofs.Canonical
import ClaimSeal.Proofs.KeySigner.Invariant
import ClaimSeal.Proofs.KeySigner.Signatures

/-!
**Signatures on elliptic curves in a fixed width.**

A key on an elliptic curve answers with the encoding of two integers, whose lengths vary.  What is
given out has twice the width of a coordinate of the curve, and holds the two integers one after the
other.  Nothing is lost: the integers read back from the halves, and the answer is their encoding.
An integer that has no room is refused.

Main definitions:

* `KeySigner.rawSign`, `KeySigner.checked` — signing without the check that the signature fits into
  the reservation, and this check;
* `KeySigner.Converts` — what becomes of the encoding of two integers.

Main results:

* `KeySigner.coordinates?_of_isPair` — the encoding of two integers, by its rules, reads back;
* `KeySigner.converts_of_isPair` — **a faithful encoding of fixed length**.
-/

set_option autoImplicit false

namespace ClaimSeal

open Run

variable {σ κ : Type}

namespace KeySigner

/-! ### Signing without the size check -/

/-- The answer of the key in the form in which it is given out. -/
def rawSign (s : KeySigner σ κ) (data : Bytes) : Action σ Bytes := do
  let answer ← s.useKey data
  match s.finished answer with
  | .error f => throw f
  | .ok signature => return signature

/-- Lets a signature pass that fits into the reservation. -/
def checked (s : KeySigner σ κ) (signature : Bytes) : Action σ Bytes :=
  match checkSize signature s.reserveSize with
  | .error f => throw f
  | .ok signature => return signature

/-- Signing is that, and then the size check. -/
theorem sign_eq_rawSign (s : KeySigner σ κ) (data : Bytes) (b : σ) :
    s.sign data b = (s.rawSign data >>= s.checked) b := by
  rw [sign, rawSign, bind_apply, bind_apply, bind_apply]
  rcases s.useKey data b with ⟨f | answer, b'⟩
  · rfl
  · dsimp only
    cases s.finished answer <;> rfl

theorem rawSign_of_answer {s : KeySigner σ κ} {data answer : Bytes} {b b' : σ}
    (h : s.key.sign s.keyUse data b = (.ok answer, b')) :
    s.rawSign data b = (s.finished answer, b') := by
  rw [rawSign, bind_apply, useKey_eq_ok_iff.2 h]
  cases hfinished : s.finished answer with
  | error f =>
      simp only [hfinished]
      rfl
  | ok signature =>
      simp only [hfinished]
      rfl

/-! ### Two integers -/

/-- The encoding of two integers reads back. -/
theorem coordinates?_of_isPair {r t : Int} {answer : Bytes} (h : Der.IsPair r t answer) :
    coordinates? answer = some (r, t) := by
  obtain ⟨⟨hr, ht, hroom⟩, rfl⟩ := Der.isPair_iff.1 h
  refine coordinates?_of_isPlain ⟨by decide, hr⟩ ⟨by decide, ht⟩ ⟨by decide, ?_⟩
  simpa using hroom

theorem widthOfBits_eq {bits size : Nat} (hsize : (bits + 7) / 8 = size) :
    widthOfBits bits = size := by
  rw [widthOfBits]
  omega

/-- Two integers are given out if both have room, one after the other. -/
theorem plainCoordinates_of_isPair {alg : Algorithm} {bits size : Nat} {r t : Int}
    {answer signature : Bytes} (hsize : (bits + 7) / 8 = size) (h : Der.IsPair r t answer) :
    plainCoordinates alg bits answer = .ok signature ↔
      (HasRoom size r ∧ HasRoom size t) ∧
        signature = Bytes.ofNat size r.toNat ++ Bytes.ofNat size t.toNat := by
  rw [plainCoordinates_eq_ok_iff, coordinates?_of_isPair h, widthOfBits_eq hsize]
  constructor
  · rintro ⟨m, n, width, hpair, hsame, hm, hn, rfl⟩
    obtain rfl : size = width := Int.ofNat.inj hsame
    cases hpair
    exact ⟨⟨⟨Int.natCast_nonneg m, Int.ofNat_lt.2 hm⟩, Int.natCast_nonneg n, Int.ofNat_lt.2 hn⟩,
      rfl⟩
  · rintro ⟨⟨⟨hr, hrlt⟩, ht, htlt⟩, rfl⟩
    refine ⟨r.toNat, t.toNat, size, ?_, rfl, by omega, by omega, rfl⟩
    rw [Int.toNat_of_nonneg hr, Int.toNat_of_nonneg ht]

/-- Otherwise the first one is reported that has no room. -/
theorem exists_plainCoordinates_of_not_hasRoom {alg : Algorithm} {bits size : Nat} {r t : Int}
    {answer : Bytes} (hsize : (bits + 7) / 8 = size) (h : Der.IsPair r t answer)
    (hroom : ¬ (HasRoom size r ∧ HasRoom size t)) :
    ∃ n, FirstWithoutRoom size r t n ∧
      plainCoordinates alg bits answer = .error (.coordinate (n < 0)) := by
  have hreport : ∀ n, FirstWithoutRoom size r t n →
      plainCoordinates alg bits answer = .error (.coordinate (n < 0)) := fun n hn =>
    plainCoordinates_eq_error_iff.2
      (.inr ⟨r, t, n, size, coordinates?_of_isPair h, widthOfBits_eq hsize, hn, rfl⟩)
  by_cases hr : HasRoom size r
  · have hfirst : FirstWithoutRoom size r t t := ⟨fun ht => hroom ⟨hr, ht⟩, .inr ⟨hr, rfl⟩⟩
    exact ⟨t, hfirst, hreport t hfirst⟩
  · have hfirst : FirstWithoutRoom size r t r := ⟨hr, .inl rfl⟩
    exact ⟨r, hfirst, hreport r hfirst⟩

/-- Two integers of a fixed width read back from the halves. -/
theorem toNat_halves {size m n : Nat} (hm : m < Bytes.count size) (hn : n < Bytes.count size) :
    Bytes.toNat ((Bytes.ofNat size m ++ Bytes.ofNat size n).take size) = m ∧
      Bytes.toNat ((Bytes.ofNat size m ++ Bytes.ofNat size n).drop size) = n := by
  have hlength := Bytes.length_ofNat size m
  rw [List.take_left' hlength, List.drop_left' hlength]
  exact ⟨Bytes.toNat_ofNat_of_lt hm, Bytes.toNat_ofNat_of_lt hn⟩

/-- What becomes of an answer that is the encoding of the integers `r` and `t`. -/
structure Converts (s : KeySigner σ κ) (size : Nat) (data : Bytes) (b b' : σ) (answer : Bytes)
    (r t : Int) : Prop where
  /-- It is given out exactly if both integers have room. -/
  gives_iff : (∃ signature b'', s.rawSign data b = (.ok signature, b'')) ↔
    HasRoom size r ∧ HasRoom size t
  /-- Otherwise the first one is reported that has none. -/
  raises : ¬ (HasRoom size r ∧ HasRoom size t) →
    ∃ n, FirstWithoutRoom size r t n ∧ s.rawSign data b = (.error (.coordinate (n < 0)), b')
  /-- What is given out has twice the width. -/
  length_eq : ∀ signature b'', s.rawSign data b = (.ok signature, b'') →
    signature.length = 2 * size
  /-- Its halves are the two integers. -/
  halves : ∀ signature b'', s.rawSign data b = (.ok signature, b'') →
    (Bytes.toNat (signature.take size) : Int) = r ∧ (Bytes.toNat (signature.drop size) : Int) = t
  /-- Encoding the halves gives the answer again. -/
  encodes : ∀ signature b'', s.rawSign data b = (.ok signature, b'') →
    answer = Der.encodeSequence [Der.encodeInteger (Bytes.toNat (signature.take size)),
      Der.encodeInteger (Bytes.toNat (signature.drop size))]
  /-- No other integers are given out in the same way. -/
  injective : ∀ signature b'', s.rawSign data b = (.ok signature, b'') →
    ∀ data₂ b₂ b₂' b₂'' answer₂ r₂ t₂, s.key.sign s.keyUse data₂ b₂ = (.ok answer₂, b₂') →
      Der.IsPair r₂ t₂ answer₂ → s.rawSign data₂ b₂ = (.ok signature, b₂'') → r₂ = r ∧ t₂ = t
  /-- Nothing but the check that it fits into the reservation comes after that. -/
  sign_eq : s.sign data b = (s.rawSign data >>= s.checked) b

section Elliptic

variable {s : KeySigner σ κ} {curve : Text} {bits size : Nat} {data answer : Bytes} {b b' : σ}
  {r t : Int}

/-- What is given out for the encoding of two integers. -/
theorem rawSign_of_isPair (halg : s.alg.family = .ecdsa)
    (hfamily : s.key.family = .elliptic curve bits) (hsize : (bits + 7) / 8 = size)
    (hanswer : s.key.sign s.keyUse data b = (.ok answer, b')) (hpair : Der.IsPair r t answer)
    {signature : Bytes} {b'' : σ} :
    s.rawSign data b = (.ok signature, b'') ↔
      ((HasRoom size r ∧ HasRoom size t) ∧
        signature = Bytes.ofNat size r.toNat ++ Bytes.ofNat size t.toNat) ∧ b' = b'' := by
  have hplain : plainCoordinates s.alg bits answer = .ok signature ↔
      (HasRoom size r ∧ HasRoom size t) ∧
        signature = Bytes.ofNat size r.toNat ++ Bytes.ofNat size t.toNat :=
    plainCoordinates_of_isPair hsize hpair
  rw [rawSign_of_answer hanswer, finished_of_elliptic halg hfamily, ← hplain]
  constructor
  · intro h
    exact ⟨congrArg Prod.fst h, congrArg Prod.snd h⟩
  · rintro ⟨h, rfl⟩
    rw [h]

/-- Its halves are the two integers. -/
theorem halves_of_isPair (halg : s.alg.family = .ecdsa)
    (hfamily : s.key.family = .elliptic curve bits) (hsize : (bits + 7) / 8 = size)
    (hanswer : s.key.sign s.keyUse data b = (.ok answer, b')) (hpair : Der.IsPair r t answer)
    {signature : Bytes} {b'' : σ} (h : s.rawSign data b = (.ok signature, b'')) :
    (Bytes.toNat (signature.take size) : Int) = r ∧
      (Bytes.toNat (signature.drop size) : Int) = t := by
  obtain ⟨⟨⟨⟨hr, hrlt⟩, ht, htlt⟩, rfl⟩, _⟩ :=
    (rawSign_of_isPair halg hfamily hsize hanswer hpair).1 h
  have hm : r.toNat < Bytes.count size := by omega
  have hn : t.toNat < Bytes.count size := by omega
  obtain ⟨hfirst, hsecond⟩ := toNat_halves hm hn
  rw [hfirst, hsecond, Int.toNat_of_nonneg hr, Int.toNat_of_nonneg ht]
  exact ⟨rfl, rfl⟩

/-- **A faithful encoding of fixed length.**  On an elliptic curve of any size, and whichever two
integers the key answers with, these are given out exactly if they have room, each in the width of a
coordinate; they read back from the halves, and what has no room is refused. -/
theorem converts_of_isPair (halg : s.alg.family = .ecdsa)
    (hfamily : s.key.family = .elliptic curve bits) (hsize : (bits + 7) / 8 = size)
    (hanswer : s.key.sign s.keyUse data b = (.ok answer, b')) (hpair : Der.IsPair r t answer) :
    s.Converts size data b b' answer r t := by
  have hgives : ∀ {signature b''}, s.rawSign data b = (.ok signature, b'') ↔
      ((HasRoom size r ∧ HasRoom size t) ∧
        signature = Bytes.ofNat size r.toNat ++ Bytes.ofNat size t.toNat) ∧ b' = b'' :=
    rawSign_of_isPair halg hfamily hsize hanswer hpair
  have hhalves : ∀ {signature b''}, s.rawSign data b = (.ok signature, b'') →
      (Bytes.toNat (signature.take size) : Int) = r ∧
        (Bytes.toNat (signature.drop size) : Int) = t :=
    halves_of_isPair halg hfamily hsize hanswer hpair
  refine { gives_iff := ?_, raises := ?_, length_eq := ?_, halves := fun _ _ h => hhalves h,
           encodes := ?_, injective := ?_, sign_eq := s.sign_eq_rawSign data b }
  · constructor
    · rintro ⟨_, _, h⟩
      exact (hgives.1 h).1.1
    · intro hroom
      exact ⟨_, _, hgives.2 ⟨⟨hroom, rfl⟩, rfl⟩⟩
  · intro hroom
    rw [rawSign_of_answer hanswer, finished_of_elliptic halg hfamily]
    obtain ⟨n, hn, hplain⟩ := exists_plainCoordinates_of_not_hasRoom hsize hpair hroom
    exact ⟨n, hn, by rw [hplain]⟩
  · intro signature b'' h
    obtain ⟨⟨_, rfl⟩, _⟩ := hgives.1 h
    rw [List.length_append, Bytes.length_ofNat, Bytes.length_ofNat, Nat.two_mul]
  · intro signature b'' h
    obtain ⟨hr, ht⟩ := hhalves h
    rw [hr, ht]
    exact (Der.isPair_iff.1 hpair).2
  · intro signature b'' h data₂ b₂ b₂' b₂'' answer₂ r₂ t₂ hanswer₂ hpair₂ h₂
    obtain ⟨hr, ht⟩ := hhalves h
    obtain ⟨hr₂, ht₂⟩ := halves_of_isPair halg hfamily hsize hanswer₂ hpair₂ h₂
    exact ⟨hr₂.symm.trans hr, ht₂.symm.trans ht⟩

end Elliptic

/-! ### A key on a wide curve -/

/-- The largest number in 66 bytes.  Its encoding has a zero in front. -/
def Sample.large : Nat := Bytes.count 66 - 1

/-- An answer with that number twice, so that its length is a long one. -/
def Sample.longAnswer : Bytes :=
  Der.encodeSequence [Der.encodeInteger Sample.large, Der.encodeInteger Sample.large]

/-- A signer with a key on the widest curve, which answers like that. -/
def Sample.longSigner : KeySigner Unit Nat :=
  { Sample.signer with
    alg := .es512
    key :=
      { Sample.key with
        family := .elliptic (txt "secp521r1") 521
        sign := fun _ _ => pure Sample.longAnswer } }

theorem converts_of_isPair_long :
    Sample.longSigner.alg.family = .ecdsa ∧
      Sample.longSigner.key.family = .elliptic (txt "secp521r1") (521 : Nat) ∧
      (521 + 7) / 8 = 66 ∧
      Sample.longSigner.key.sign Sample.longSigner.keyUse (ascii "claim") () =
        (.ok Sample.longAnswer, ()) ∧
      Der.IsPair Sample.large Sample.large Sample.longAnswer ∧
      Sample.longSigner.Converts 66 (ascii "claim") () () Sample.longAnswer Sample.large
        Sample.large := by
  have hpair : Der.IsPair Sample.large Sample.large Sample.longAnswer :=
    Der.isPair_iff.2 ⟨by decide +kernel, rfl⟩
  exact ⟨rfl, rfl, rfl, rfl, hpair, converts_of_isPair rfl rfl rfl rfl hpair⟩

end KeySigner

end ClaimSeal

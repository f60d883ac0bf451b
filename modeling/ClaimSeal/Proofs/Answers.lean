import ClaimSeal.Key.Private

/-!
**What keys answer.**

The answer of a key on an elliptic curve is made of two numbers in the range of the curve, that of
an RSA key is as long as the modulus, and that of a key on the twisted Edwards curve has 64 bytes.
The keys of the library answer like this, and nothing else is relied on about the size of a
signature.

Main definitions:

* `Ecdsa.IsSignature`, `PrivateKey.InRange` — two numbers in the range of a curve;
* `PrivateKey.Sized` — a key whose answers have the size of its family.

Main results:

* `Ecdsa.sign?_lt` — the two numbers are positive and below the order;
* `Rsa.length_of_sign?`, `Ed25519.length_sign` — the size of other answers;
* `KeyMaterial.sized_toPrivateKey` — **the keys of the library answer in the size of their family**.
-/

set_option autoImplicit false

namespace ClaimSeal

variable {σ κ : Type}

/-! ### Sizes -/

/-- What a key on an elliptic curve answers: two positive numbers of at most `bits` bits. -/
def Ecdsa.IsSignature (bits : Nat) (answer : Bytes) : Prop :=
  ∃ r s : Nat, 0 < r ∧ r < Nat.pow 2 bits ∧ 0 < s ∧ s < Nat.pow 2 bits ∧
    answer = Der.encodeSequence [Der.encodeInteger r, Der.encodeInteger s]

/-- On a named curve the key answers with two numbers in the range of the curve. -/
def PrivateKey.InRange (key : PrivateKey σ κ) : Prop :=
  ∀ name bits digest data b answer b', key.family = .elliptic (Curve.Name.text name) bits →
    key.sign (.ecdsa digest) data b = (.ok answer, b') →
    Ecdsa.IsSignature name.domain.size answer

/-- The answers of a key have the size of its family. -/
structure PrivateKey.Sized (key : PrivateKey σ κ) : Prop where
  elliptic : key.InRange
  rsa : ∀ bits digest mask salt data b answer b', key.family = .rsa bits →
    key.sign (.pss digest mask salt) data b = (.ok answer, b') →
    (answer.length : Int) = (bits + 7) / 8
  edwards : ∀ data b answer b', key.family = .edwards →
    key.sign .plain data b = (.ok answer, b') → answer.length = 64

/-! ### Named curves -/

namespace Curve.Name

/-- No named curve has more than 521 bits. -/
theorem size_le (name : Name) : name.domain.size ≤ 521 := by
  cases name <;> decide +kernel

/-- The order of a named curve has no more bits than its field, and is not zero. -/
theorem order_lt (name : Name) :
    0 < name.domain.order ∧ name.domain.order < Nat.pow 2 name.domain.size := by
  cases name <;> decide +kernel

theorem find?_text (name : Name) : all.find? (·.text = name.text) = some name := by
  cases name <;> decide

/-- Curves of the same name are the same. -/
theorem text_injective {a b : Name} (h : a.text = b.text) : a = b := by
  have ha := find?_text a
  rw [h, find?_text b] at ha
  exact (Option.some.inj ha).symm

end Curve.Name

/-! ### Elliptic curves -/

namespace Ecdsa

variable {α : Type}

/-- What is found was accepted for some number. -/
theorem exists_of_search {h : Hash} {order fuel : Nat} {accept : Nat → Option α} {key last : Bytes}
    {a : α} (hfound : search h order accept fuel key last = some a) : ∃ k, accept k = some a := by
  -- a candidate that is refused changes key and output, and leaves less fuel
  induction fuel generalizing key last with
  | zero => cases hfound
  | succ fuel ih =>
      rw [search] at hfound
      simp only at hfound
      split at hfound
      · next a' haccepted =>
          cases hfound
          split at haccepted
          · exact ⟨_, haccepted⟩
          · cases haccepted
      · exact ih hfound

/-- The two numbers of a signature are positive and below the order of the curve. -/
theorem sign?_lt {c : Curve.Domain} {h : Hash} {secret r s : Nat} {message : Bytes}
    (horder : 0 < c.order) (hsign : sign? c h secret message = some (r, s)) :
    (0 < r ∧ r < c.order) ∧ 0 < s ∧ s < c.order := by
  obtain ⟨nonce, hnonce⟩ := exists_of_search hsign
  rw [signWith?] at hnonce
  obtain ⟨p, _, hnonce⟩ := Option.bind_eq_some_iff.1 hnonce
  simp only at hnonce
  split at hnonce
  · cases hnonce
  · next hzero =>
      cases hnonce
      refine ⟨⟨?_, Nat.mod_lt _ horder⟩, ?_, Nat.mod_lt _ horder⟩
      · exact Nat.pos_of_ne_zero fun hr => hzero (.inl hr)
      · exact Nat.pos_of_ne_zero fun hs => hzero (.inr hs)

end Ecdsa

/-! ### Other families -/

theorem Rsa.length_of_sign? {k : Rsa.PrivateKey} {digest mask : Hash} {salt : Nat}
    {message signature : Bytes} (h : k.sign? digest mask salt message = some signature) :
    signature.length = (k.publicKey.size + 7) / 8 := by
  obtain ⟨block, _, h⟩ := Option.bind_eq_some_iff.1 h
  cases h
  exact Bytes.length_ofNat _ _

theorem Ed25519.length_sign (seed message : Bytes) : (Ed25519.sign seed message).length = 64 := by
  simp only [sign, basePoint, encodePoint, encodeNumber, List.length_append, List.length_reverse,
    Bytes.length_ofNat]

/-! ### The keys of the library -/

namespace KeyMaterial

/-- A key answers if it can be used in the given way. -/
theorem sign?_of_sign {key : KeyMaterial} {use : KeyUse} {data answer : Bytes} {b b' : σ}
    (h : key.toPrivateKey.sign use data b = (.ok answer, b')) :
    key.sign? use data = some answer := by
  cases hsign : key.sign? use data with
  | none =>
      simp only [toPrivateKey, hsign] at h
      cases h
  | some signature =>
      simp only [toPrivateKey, hsign] at h
      cases h
      rfl

/-- All that a key complains about is how it is used. -/
theorem eq_misuse_of_sign {key : KeyMaterial} {use : KeyUse} {data : Bytes} {b b' : σ} {f : Fault}
    (h : key.toPrivateKey.sign use data b = (.error f, b')) : f = misuse := by
  cases hsign : key.sign? use data with
  | none =>
      simp only [toPrivateKey, hsign] at h
      cases h
      rfl
  | some signature =>
      simp only [toPrivateKey, hsign] at h
      cases h

theorem inRange_toPrivateKey (key : KeyMaterial) :
    (key.toPrivateKey : PrivateKey σ PublicKey).InRange := by
  intro name bits digest data b answer b' hfamily h
  have hsign := sign?_of_sign h
  cases key with
  | elliptic curve secret point =>
      obtain rfl : curve = name :=
        Curve.Name.text_injective (KeyFamily.elliptic.inj hfamily).1
      obtain ⟨pair, hpair, hanswer⟩ := Option.bind_eq_some_iff.1 hsign
      obtain ⟨r, s⟩ := pair
      cases hanswer
      obtain ⟨⟨hr, hrlt⟩, hs, hslt⟩ := Ecdsa.sign?_lt curve.order_lt.1 hpair
      have horder := curve.order_lt.2
      exact ⟨r, s, hr, Nat.lt_trans hrlt horder, hs, Nat.lt_trans hslt horder, rfl⟩
  | rsa _ => cases hsign
  | ed25519 _ => cases hsign
  | other => cases hsign

/-- The keys of the library answer in the size of their family. -/
theorem sized_toPrivateKey (key : KeyMaterial) :
    (key.toPrivateKey : PrivateKey σ PublicKey).Sized where
  elliptic := key.inRange_toPrivateKey
  rsa := by
    intro bits digest mask salt data b answer b' hfamily h
    have hsign := sign?_of_sign h
    cases key with
    | rsa key =>
        cases hfamily
        rw [Rsa.length_of_sign? hsign]
        omega
    | elliptic _ _ _ => cases hsign
    | ed25519 _ => cases hsign
    | other => cases hsign
  edwards := by
    intro data b answer b' hfamily h
    have hsign := sign?_of_sign h
    cases key with
    | ed25519 seed =>
        cases hsign
        exact Ed25519.length_sign seed data
    | elliptic _ _ _ => cases hsign
    | rsa _ => cases hsign
    | other => cases hsign

end KeyMaterial

end ClaimSeal

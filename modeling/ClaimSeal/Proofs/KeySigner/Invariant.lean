import ClaimSeal.Proofs.KeySigner.Origin

/-!
**The invariant of signers with a private key.**

However a signer comes about, and whatever revocation responses are offered to it afterwards, its
key fits its algorithm, the last of its certificates holds its public key, it reserves space for all
of its certificates, and it carries no revocation response but one that covers that last
certificate.

Main definitions:

* `KeySigner.Invariant` — what holds of every signer, as its methods show it;
* `Sample.signer` — a signer to try the statements on.

Main results:

* `KeySigner.usesKey_of_fits`, `KeySigner.takes_of_fits` — a key that fits is used as its family is;
* `KeySigner.reserveSize_eq` — what is reserved;
* `KeySigner.invariant_of_made` — **the invariant holds of every signer**.
-/

set_option autoImplicit false

namespace ClaimSeal

open Run

variable {σ κ : Type}

namespace KeySigner

/-! ### How a key is used -/

/-- How a key of a signer is used: a key of the family that the algorithm takes, with the hash of
the algorithm. -/
def UsesKey (s : KeySigner σ κ) : Prop :=
  match s.alg.family with
  | .ecdsa => ∃ name bits digest, s.alg.curve? = some name ∧
      s.key.family = .elliptic name.text bits ∧ s.alg.hash? = some digest ∧
      s.keyUse = .ecdsa digest
  | .rsaPss => ∃ bits digest, 2048 ≤ bits ∧ s.key.family = .rsa bits ∧
      s.alg.hash? = some digest ∧ s.keyUse = .pss digest digest digest.digestSize
  | .edwards => s.key.family = .edwards ∧ s.keyUse = .plain

theorem exists_hash_of_ne_edwards (alg : Algorithm) (h : alg.family ≠ .edwards) :
    ∃ digest, alg.hash? = some digest := by
  cases alg with
  | ed25519 => exact absurd rfl h
  | _ => exact ⟨_, rfl⟩

/-- A key that fits the algorithm is used as its family is. -/
theorem usesKey_of_fits {s : KeySigner σ κ} (h : s.alg.Fits s.key.family) : s.UsesKey := by
  unfold UsesKey
  unfold Algorithm.Fits at h
  cases hf : s.alg.family with
  | ecdsa =>
      simp only [hf] at h ⊢
      obtain ⟨name, bits, hname, hfamily⟩ := h
      obtain ⟨digest, hdigest⟩ := exists_hash_of_ne_edwards s.alg (by simp [hf])
      exact ⟨name, bits, digest, hname, hfamily, hdigest, by simp [keyUse, hf, hdigest]⟩
  | rsaPss =>
      simp only [hf] at h ⊢
      obtain ⟨bits, hbits, hfamily⟩ := h
      obtain ⟨digest, hdigest⟩ := exists_hash_of_ne_edwards s.alg (by simp [hf])
      exact ⟨bits, digest, hbits, hfamily, hdigest, by simp [keyUse, hf, hdigest]⟩
  | edwards =>
      simp only [hf] at h ⊢
      exact ⟨h, by simp [keyUse, hf]⟩

/-- A key that fits the algorithm is one that it takes, and it is used accordingly. -/
theorem takes_of_fits {s : KeySigner σ κ} (h : s.alg.Fits s.key.family) :
    s.alg.Takes s.key.family s.keyUse := by
  obtain ⟨use, htakes⟩ := Algorithm.fits_iff_takes.1 h
  suffices huse : s.keyUse = use from huse ▸ htakes
  rw [keyUse]
  generalize s.alg = alg at htakes ⊢
  generalize s.key.family = family at htakes
  cases htakes <;> rfl

/-! ### What is reserved -/

/-- The space for the answer of a time authority: some if an address is given that is not empty. -/
def answerSpace : Option Text → Nat
  | some (_ :: _) => 10000
  | _ => 0

/-- The sum of the lengths of certificates. -/
def totalLength : List Bytes → Nat
  | [] => 0
  | der :: rest => der.length + totalLength rest

theorem length_flatten_eq (certs : List Bytes) : certs.flatten.length = totalLength certs := by
  induction certs with
  | nil => rfl
  | cons der rest ih => rw [List.flatten_cons, List.length_append, ih, totalLength]

theorem reserveSize_eq (s : KeySigner σ κ) :
    s.reserveSize = 1024 + totalLength s.certs + answerSpace s.tsaUrl := by
  rw [reserveSize, usesTimeAuthority, length_flatten_eq]
  cases s.tsaUrl with
  | none => rfl
  | some url => cases url <;> rfl

/-! ### The invariant -/

/-- What holds of every signer, as its methods show it: they answer without touching the backend. -/
structure Invariant (P : Certificate κ → Prop) (s : KeySigner σ κ) : Prop where
  /-- The key fits the algorithm and is used as its family is. -/
  key : s.UsesKey
  /-- The algorithm takes such a key and uses it in this way. -/
  takes : s.alg.Takes s.key.family s.keyUse
  /-- The certificate that is set apart is one of those given, and holds the signer's public key. -/
  own : P s.chain.own ∧ s.chain.own.publicKey = .ok s.key.publicKey
  /-- It is the last one. -/
  certs : ∀ b, ∃ others, s.toSigner.certs b = (.ok (others ++ [s.chain.own.der]), b)
  /-- Space is reserved for all certificates, and for a time authority if one is used. -/
  reserveSize : ∀ b, ∃ certs url, s.toSigner.certs b = (.ok certs, b) ∧
    s.toSigner.timeAuthorityUrl b = (.ok url, b) ∧
    s.toSigner.reserveSize b =
      (.ok ((1024 + totalLength certs + answerSpace url : Nat) : Int), b)
  /-- There is no revocation response, or one that is accepted for that certificate. -/
  ocspVal : ∀ b, ∃ ocsp, s.toSigner.ocspVal b = (.ok ocsp, b) ∧
    ∀ response, ocsp = some response → acceptOcsp response s.chain.own.serial = .ok response

theorem Sound.invariant {P : Certificate κ → Prop} {s : KeySigner σ κ} (h : Sound P s) :
    Invariant P s where
  key := usesKey_of_fits h.fits
  takes := takes_of_fits h.fits
  own := ⟨h.property, h.publicKey⟩
  certs := fun b => ⟨s.chain.others.map Certificate.der, rfl⟩
  reserveSize := fun b => ⟨s.certs, s.tsaUrl, rfl, rfl, by rw [← reserveSize_eq]; rfl⟩
  ocspVal := fun b => ⟨s.ocsp, rfl, h.accepted⟩

/-- **The invariant holds of every signer**, in whichever way it was built, after any sequence of
revocation responses that were offered to it, accepted or not. -/
theorem invariant_of_made {P : Certificate κ → Prop} {s : KeySigner σ κ} (h : Made P s)
    (responses : List Bytes) : Invariant P (responses.foldl offer s) :=
  (h.sound.offers responses).invariant

/-! ### A signer to try it on -/

/-- A successful revocation response that covers one serial number.  What no reader looks at is left
null. -/
def Sample.response (serial : Int) : Bytes :=
  let null := Der.encode 0x05 []
  let certificate := Der.encodeSequence [null, null, null, Der.encodeInteger serial]
  let entries := Der.encodeSequence [Der.encodeSequence [certificate, null, null]]
  let basic := Der.encodeSequence [Der.encodeSequence [null, null, entries], null, null]
  let type := Der.encode 0x06 [0x2B, 0x06, 0x01, 0x05, 0x05, 0x07, 0x30, 0x01, 0x01]
  let body := Der.encodeSequence [type, Der.encode 0x04 basic]
  Der.encodeSequence [Der.encode 0x0A [0], Der.encode 0xA0 body]

/-- The signature of a message under a public key that is a number: this number, and one that
depends on the size of the message. -/
def Sample.signature (k : Nat) (message : Bytes) : Bytes :=
  Der.encodeSequence [Der.encodeInteger k, Der.encodeInteger (message.length % 100 + 1 : Nat)]

/-- A key on an elliptic curve that makes such signatures. -/
def Sample.key : PrivateKey Unit Nat where
  family := .elliptic (txt "secp256r1") 256
  publicKey := 7
  sign _ message := pure (Sample.signature 7 message)

/-- Certificates in the wrong order: the one of the signer comes first. -/
def Sample.certificates : List (Certificate Nat) :=
  [⟨.ok 7, 300, [1, 2, 3]⟩, ⟨.ok 8, 301, [4, 5]⟩]

/-- The signer that is built from them. -/
def Sample.signer : KeySigner Unit Nat :=
  ⟨Sample.key, .es256, some (txt "http://tsa"),
    ⟨[⟨.ok 8, 301, [4, 5]⟩], ⟨.ok 7, 300, [1, 2, 3]⟩⟩, none⟩

/-- The world before anything was done. -/
def Sample.world : World Unit := ⟨⟨[], [], []⟩, [], ()⟩

theorem Sample.made_signer : Made (· ∈ Sample.certificates) Sample.signer := by
  have h : KeySigner.build Sample.key Sample.certificates .es256 (some (txt "http://tsa")) none
      Sample.world = (.ok Sample.signer,
        { Sample.world with log := [⟨.debug, Sample.signer.loadedLine⟩] }) := rfl
  exact .build (fun _ hc => hc) h

/-- The sample is offered what is no response, one for another certificate, and one that fits. -/
theorem invariant_of_made_sample :
    Made (· ∈ Sample.certificates) Sample.signer ∧
      Invariant (· ∈ Sample.certificates)
        ([[0x30], Sample.response 301, Sample.response 300].foldl offer Sample.signer) :=
  ⟨Sample.made_signer, invariant_of_made Sample.made_signer _⟩

/-- The last response was attached. -/
example : ([[0x30], Sample.response 301, Sample.response 300].foldl offer Sample.signer).ocsp =
    some (Sample.response 300) := by decide

end KeySigner

end ClaimSeal

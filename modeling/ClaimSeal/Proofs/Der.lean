import ClaimSeal.CertificateFile
import ClaimSeal.Proofs.Encoding

/-!
**What is read fits into what it is read from.**

A reader makes nothing up: the value that it gives and the input that it leaves take no more bytes
than the input had.  How many bytes a value takes is a matter of its type: a byte string as many as
it has, a number as many as it needs.  From the readers of single values this carries over to
records, and from there to certificates, so a certificate is at least as long as the number that its
RSA key has as a modulus.

Main definitions:

* `Der.Within` — a value and what is left fit into the input, with bytes set aside.

Main results:

* `Der.within_bind`, `Der.within_inside` — one reader after another one, and inside of it;
* `Der.within_natural`, `Der.within_bits` — single values;
* `CertificateFile.within_signedPart` — the part of a certificate that is signed;
* `CertificateFile.widthOf_modulus_le` — **a certificate is as long as the modulus of its key**.
-/

set_option autoImplicit false

namespace ClaimSeal

namespace Der

variable {α β : Type}

/-- A value, of which `size` tells how many bytes it takes, and what is left of the input fit into
the input together with `spare` bytes that were set aside before. -/
def Within (spare : Nat) (r : Reader α) (size : α → Nat) : Prop :=
  ∀ b a rest, r b = some (a, rest) → size a + rest.length ≤ spare + b.length

/-! ### Steps -/

theorem within_fail {spare : Nat} {size : α → Nat} : Within spare fail size := by
  intro b a rest h
  cases h

theorem within_pure {spare : Nat} {size : α → Nat} {a : α} (h : size a ≤ spare) :
    Within spare (pure a) size := by
  intro b a' rest hr
  cases hr
  omega

/-- What the first reader gives is set aside for the second one. -/
theorem within_bind {spare : Nat} {r : Reader α} {f : α → Reader β} {size : α → Nat}
    {size' : β → Nat} (hr : Within spare r size) (hf : ∀ a, Within (size a) (f a) size') :
    Within spare (r >>= f) size' := by
  intro b c rest h
  cases hread : r b with
  | none =>
      simp only [bind, StateT.bind, hread, Option.bind_none] at h
      cases h
  | some read =>
      simp only [bind, StateT.bind, hread, Option.bind_some] at h
      have hfirst := hr b read.1 read.2 hread
      have hsecond := hf read.1 read.2 c rest h
      omega

theorem within_require {spare : Nat} {condition : Bool} :
    Within spare (require condition) fun _ => spare := by
  cases condition with
  | false => exact within_fail
  | true => exact within_pure (Nat.le_refl _)

/-- What is given fits if it does whenever there is something to give. -/
theorem within_given {spare : Nat} {size : α → Nat} {o : Option α}
    (h : ∀ a, o = some a → size a ≤ spare) : Within spare (given o) size := by
  cases o with
  | none => exact within_fail
  | some a => exact within_pure (h a rfl)

/-- A reader whose value does not matter keeps what was set aside. -/
theorem Within.keep {r : Reader α} (h : Within 0 r fun _ => 0) (spare : Nat) :
    Within spare r fun _ => spare := by
  intro b a rest hr
  have hle := h b a rest hr
  simp only at hle ⊢
  omega

theorem Within.mono {spare : Nat} {r : Reader α} {size size' : α → Nat}
    (h : Within spare r size) (hle : ∀ a, size' a ≤ size a) : Within spare r size' := by
  intro b a rest hr
  have hread := h b a rest hr
  have hsize := hle a
  omega

/-! ### Tags and lengths -/

theorem within_byte : Within 0 byte fun _ => 0 := by
  intro b x rest h
  cases b with
  | nil => cases h
  | cons y b =>
      cases h
      simp

theorem within_take (n : Nat) : Within 0 (take n) List.length := by
  intro b taken rest h
  rw [take] at h
  split at h
  · cases h
    simp only [List.length_take, List.length_drop]
    omega
  · cases h

theorem within_groups (fuel n : Nat) : Within 0 (groups fuel n) fun _ => 0 := by
  -- induction on the number of groups that may still come, for any number so far
  induction fuel generalizing n with
  | zero => exact within_fail
  | succ fuel ih =>
      refine within_bind within_byte fun b => ?_
      refine within_bind within_require fun _ => ?_
      split
      · exact within_pure (Nat.le_refl 0)
      · exact ih _

theorem within_tag : Within 0 tag fun _ => 0 := by
  refine within_bind within_byte fun b => ?_
  split
  · exact within_pure (Nat.le_refl 0)
  · refine within_bind (within_groups 5 0) fun number => ?_
    exact within_bind within_require fun _ => within_pure (Nat.le_refl 0)

theorem within_length : Within 0 length fun _ => 0 := by
  refine within_bind within_byte fun b => ?_
  split
  · exact within_pure (Nat.le_refl 0)
  · refine within_bind within_require fun _ => ?_
    refine within_bind ((within_take _).mono fun _ => Nat.zero_le _) fun _ => ?_
    exact within_bind within_require fun _ => within_pure (Nat.le_refl 0)

theorem within_any : Within 0 any fun p => p.2.length := by
  refine within_bind within_tag fun t => ?_
  refine within_bind within_length fun n => ?_
  exact within_bind (within_take n) fun c => within_pure (Nat.le_refl _)

theorem within_contents (t : Tag) : Within 0 (contents t) List.length := by
  refine within_bind within_any fun p => ?_
  exact within_bind within_require fun _ => within_pure (Nat.le_refl _)

/-! ### Structure -/

/-- A value that takes up a whole input is not larger than it. -/
theorem Within.le_of_whole? {r : Reader α} {size : α → Nat} (hr : Within 0 r size) {b : Bytes}
    {a : α} (h : whole? r b = some a) : size a ≤ b.length := by
  rw [whole?] at h
  split at h
  · next hread =>
      cases h
      have hle := hr _ _ _ hread
      simpa using hle
  · cases h

/-- What stands inside of a value is not larger than the value. -/
theorem within_inside {r : Reader α} {size : α → Nat} (t : Tag) (hr : Within 0 r size) :
    Within 0 (inside t r) size :=
  within_bind (within_contents t) fun _ => within_given fun _ h => hr.le_of_whole? h

/-- Nothing needs to be known about what stands inside if it does not matter. -/
theorem within_inside_zero (t : Tag) (r : Reader α) : Within 0 (inside t r) fun _ => 0 :=
  within_bind (within_contents t) fun _ => within_given fun _ _ => Nat.zero_le _

theorem within_perhaps {r : Reader α} (t : Tag) (hr : Within 0 r fun _ => 0) :
    Within 0 (perhaps t r) fun _ => 0 := by
  intro b o rest h
  rw [perhaps] at h
  split at h
  · split at h
    · have hmap : Within 0 (some <$> r) fun _ => 0 := by
        rw [map_eq_pure_bind]
        exact within_bind hr fun a => within_pure (Nat.le_refl 0)
      exact hmap b o rest h
    · cases h
      exact Nat.le_refl _
  · split at h
    · cases h
      exact Nat.le_refl _
    · cases h

/-! ### Values -/

/-- A natural number needs no more bytes than it was read from. -/
theorem widthOf_toInt_le (c : Bytes) : Bytes.widthOf (Bytes.toInt c).toNat ≤ c.length := by
  have hlt := Bytes.toNat_lt c
  refine Bytes.widthOf_le (Nat.lt_of_le_of_lt ?_ hlt)
  rw [Bytes.toInt_eq]
  split <;> omega

theorem within_integer : Within 0 integer fun i => Bytes.widthOf i.toNat := by
  refine within_bind (within_contents _) fun c => ?_
  exact within_bind within_require fun _ => within_pure (widthOf_toInt_le c)

theorem within_natural : Within 0 natural Bytes.widthOf := by
  refine within_bind within_integer fun i => ?_
  exact within_bind within_require fun _ => within_pure (Nat.le_refl _)

theorem length_bitsOf_le {c data : Bytes} (h : bitsOf c = some data) : data.length ≤ c.length := by
  cases c with
  | nil => cases h
  | cons spare c =>
      rw [bitsOf] at h
      split at h
      · split at h
        · cases h
          exact Nat.zero_le _
        · cases h
      · split at h
        · cases h
          exact Nat.le_succ _
        · cases h

theorem within_bits : Within 0 bits List.length :=
  within_bind (within_contents _) fun _ => within_given fun _ h => length_bitsOf_le h

theorem within_implicitBits (number : Nat) : Within 0 (implicitBits number) List.length :=
  within_bind (within_contents _) fun _ => within_given fun _ h => length_bitsOf_le h

end Der

open Der

/-! ### Public keys -/

theorem AlgorithmId.within_reader : Within 0 AlgorithmId.reader fun _ => 0 := by
  intro b a rest h
  -- what stands inside of an identifier does not matter, so no induction on the depth is needed
  have hdepth : ∀ depth, Within 0 (readerWithin depth) fun _ => 0 := by
    intro depth
    cases depth with
    | zero => exact within_fail
    | succ depth => exact within_inside_zero _ _
  exact hdepth b.length b a rest h

theorem PublicKey.Info.within_reader :
    Within 0 PublicKey.Info.reader fun info => info.bits.length := by
  refine within_inside _ (within_bind AlgorithmId.within_reader fun algorithm => ?_)
  exact within_bind within_bits fun _ => within_pure (Nat.le_refl _)

theorem PublicKey.within_rsaReader :
    Within 0 PublicKey.rsaReader fun key => Bytes.widthOf key.modulus := by
  refine within_inside _ (within_bind within_natural fun n => ?_)
  refine within_bind (Within.keep (within_natural.mono fun _ => Nat.zero_le _) _) fun e => ?_
  exact within_bind within_require fun _ => within_pure (Nat.le_refl _)

/-- The modulus of an RSA key is not larger than its encoding. -/
theorem PublicKey.widthOf_modulus_le {info : Info} {key : Rsa.PublicKey}
    (h : ofInfo? info = some (.rsa key)) : Bytes.widthOf key.modulus ≤ info.bits.length := by
  rw [ofInfo?] at h
  split at h
  case h_2 =>
      cases hread : whole? rsaReader info.bits with
      | none => simp [hread] at h
      | some read =>
          simp only [hread, Option.bind_eq_bind, Option.bind_some, Option.some.injEq,
            rsa.injEq] at h
          rw [← h]
          exact within_rsaReader.le_of_whole? hread
  -- keys of other kinds are no RSA keys
  case h_5 =>
      simp only [Option.ite_none_right_eq_some, Option.some.injEq] at h
      obtain ⟨_, h⟩ := h
      split at h <;> cases h
  all_goals simp [Option.bind_eq_some_iff] at h

/-! ### Certificates -/

namespace CertificateFile

theorem within_name : Within 0 name fun _ => 0 :=
  within_bind (within_inside_zero _ _) fun _ => within_pure (Nat.le_refl 0)

theorem within_signedPart : Within 0 signedPart fun record => record.key.bits.length := by
  refine within_inside _ ?_
  refine within_bind (within_perhaps _ (within_inside_zero _ _)) fun version => ?_
  refine within_bind within_require fun _ => ?_
  refine within_bind (within_integer.mono fun _ => Nat.zero_le _) fun serial => ?_
  refine within_bind AlgorithmId.within_reader fun _ => ?_
  refine within_bind within_name fun _ => ?_
  refine within_bind (within_inside_zero _ _) fun _ => ?_
  refine within_bind within_name fun _ => ?_
  refine within_bind PublicKey.Info.within_reader fun key => ?_
  -- the key has been read, what follows has to leave its bytes set aside
  have hbits : ∀ number, Within 0 (implicitBits number) fun _ => 0 := fun number =>
    (within_implicitBits number).mono fun _ => Nat.zero_le _
  refine within_bind ((within_perhaps _ (hbits 1)).keep _) fun _ => ?_
  refine within_bind ((within_perhaps _ (hbits 2)).keep _) fun _ => ?_
  refine within_bind ((within_perhaps _ (within_inside_zero _ _)).keep _) fun _ => ?_
  exact within_pure (Nat.le_refl _)

theorem within_reader : Within 0 reader fun record => record.key.bits.length := by
  refine within_inside _ (within_bind within_signedPart fun record => ?_)
  refine within_bind (AlgorithmId.within_reader.keep _) fun _ => ?_
  refine within_bind (Within.keep (within_bits.mono fun _ => Nat.zero_le _) _) fun _ => ?_
  exact within_pure (Nat.le_refl _)

/-- A certificate is at least as long as the modulus of its RSA key. -/
theorem widthOf_modulus_le {der : Bytes} {c : Certificate PublicKey} {key : Rsa.PublicKey}
    (h : ofContents der = .ok c) (hkey : c.publicKey = .ok (.rsa key)) :
    Bytes.widthOf key.modulus ≤ der.length := by
  rw [ofContents] at h
  split at h
  · cases h
  · next record hrecord =>
      split at h
      · cases h
        simp only at hkey
        split at hkey
        · next k hk =>
            cases hkey
            exact Nat.le_trans (PublicKey.widthOf_modulus_le hk)
              (within_reader.le_of_whole? hrecord)
        · cases hkey
      · cases h

end CertificateFile

end ClaimSeal

import ClaimSeal.Bytes

/-!
**RC4.**

The cipher keeps a permutation of all bytes and swaps two of its entries for every byte it gives
out.  Encryption and decryption are the same: the bytes given out are combined with the data.

Main definitions:

* `Rc4.State`, `Rc4.start` — the permutation under a key;
* `Rc4.crypt` — encryption and decryption.

Main results:

* `Rc4.crypt_crypt` — what is encrypted decrypts to itself.
-/

set_option autoImplicit false

namespace ClaimSeal

namespace Rc4

/-- The permutation of all bytes and two places in it. -/
structure State where
  entries : Array UInt8
  i : UInt8
  j : UInt8

namespace State

/-- The entry at a place. -/
def entry (s : State) (i : UInt8) : UInt8 := s.entries.getD i.toNat 0

/-- Swaps the entries at two places. -/
def swap (s : State) (i j : UInt8) : State :=
  let x := s.entry i
  let y := s.entry j
  { s with entries := (s.entries.setIfInBounds i.toNat y).setIfInBounds j.toNat x }

/-- Mixes one byte of a key in, at the first place. -/
def mix (s : State) (k : UInt8) : State :=
  let j := s.j + s.entry s.i + k
  { s.swap s.i j with i := s.i + 1, j }

/-- The next byte that is given out. -/
def next (s : State) : State × UInt8 :=
  let i := s.i + 1
  let j := s.j + s.entry i
  let s := { s.swap i j with i, j }
  (s, s.entry (s.entry i + s.entry j))

end State

/-- The identity. -/
def identity : State := ⟨(Array.range 256).map UInt8.ofNat, 0, 0⟩

/-- The permutation under a key. -/
def start (key : Bytes) : State :=
  let s := (List.range 256).foldl (fun s i => s.mix (key.getD (i % key.length) 0)) identity
  ⟨s.entries, 0, 0⟩

/-- Combines data with what is given out. -/
def apply : State → Bytes → Bytes
  | _, [] => []
  | s, b :: rest =>
      let (s, k) := s.next
      (b ^^^ k) :: apply s rest

/-- Encrypts or decrypts. -/
def crypt (key data : Bytes) : Bytes := apply (start key) data

theorem apply_apply (s : State) (data : Bytes) : apply s (apply s data) = data := by
  induction data generalizing s with
  | nil => rfl
  | cons b rest ih =>
      simp only [apply, ih]
      rw [UInt8.xor_assoc, UInt8.xor_self, UInt8.xor_zero]

/-- What is encrypted decrypts to itself. -/
theorem crypt_crypt (key data : Bytes) : crypt key (crypt key data) = data :=
  apply_apply (start key) data

end Rc4

end ClaimSeal

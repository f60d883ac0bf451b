import ClaimSeal.Curve.Weierstrass
import ClaimSeal.Hash

/-!
**Signatures on elliptic curves.**

The secret number that every signature needs is derived from the private key and the digest of the
message, so that signing is a function of its inputs.

Main definitions:

* `Ecdsa.choose` — the first candidate for the secret number that is accepted;
* `Ecdsa.sign?` — the two numbers of a signature.
-/

set_option autoImplicit false

namespace ClaimSeal

namespace Ecdsa

open Residue

/-- The leading bits of a byte string, as many as the order has. -/
def leadingBits (order : Nat) (b : Bytes) : Nat :=
  Bytes.toNat b >>> (8 * b.length - (Nat.log2 order + 1))

/-- Fills `size` bytes by keyed hashing of the last output; the last output comes with them. -/
def fill (h : Hash) (key : Bytes) : (fuel size : Nat) → (last : Bytes) → Bytes × Bytes
  | 0, _, last => ([], last)
  | fuel + 1, size, last =>
      if size = 0 then ([], last)
      else
        let next := h.hmac key last
        let (more, final) := fill h key fuel (size - next.length) next
        (next ++ more, final)

/-- The first candidate between one and the order that is accepted. -/
def search {α : Type} (h : Hash) (order : Nat) (accept : Nat → Option α) :
    (fuel : Nat) → (key last : Bytes) → Option α
  | 0, _, _ => none
  | fuel + 1, key, last =>
      let width := Bytes.widthOf order
      let (bytes, last) := fill h key (width + 1) width last
      let k := leadingBits order bytes
      let found := if 0 < k ∧ k < order then accept k else none
      match found with
      | some a => some a
      | none =>
          let key := h.hmac key (last ++ [0])
          search h order accept fuel key (h.hmac key last)

/-- The first accepted candidate for the secret number, given the private key and the digest. -/
def choose {α : Type} (h : Hash) (order secret : Nat) (digest : Bytes) (accept : Nat → Option α) :
    Option α :=
  let width := Bytes.widthOf order
  let seed := Bytes.ofNat width secret ++ Bytes.ofNat width (leadingBits order digest % order)
  let last := List.replicate h.digestSize 1
  let key := h.hmac (List.replicate h.digestSize 0) (last ++ [0] ++ seed)
  let last := h.hmac key last
  let key := h.hmac key (last ++ [1] ++ seed)
  search h order accept 1000 key (h.hmac key last)

/-- The signature with a given secret number. -/
def signWith? (c : Curve.Domain) (secret digest nonce : Nat) : Option (Nat × Nat) := do
  let p ← c.multiply? nonce c.generator
  let r := p.x % c.order
  let s := invert c.order nonce * (digest + r * secret) % c.order
  if r = 0 ∨ s = 0 then none else some (r, s)

/-- The signature of a message. -/
def sign? (c : Curve.Domain) (h : Hash) (secret : Nat) (message : Bytes) : Option (Nat × Nat) :=
  let digest := h.digest message
  choose h c.order secret digest (signWith? c secret (leadingBits c.order digest))

end Ecdsa

end ClaimSeal

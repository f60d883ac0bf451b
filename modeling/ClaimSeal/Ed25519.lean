import ClaimSeal.Residue
import ClaimSeal.Hash

/-!
**Signatures on the twisted Edwards curve.**

The curve is `-x ^ 2 + y ^ 2 = 1 + d x ^ 2 y ^ 2` over the field of `2 ^ 255 - 19` elements.
Numbers are written with the least significant byte first.

Main definitions:

* `Ed25519.publicKey` — the public key that belongs to a seed;
* `Ed25519.sign` — the signature of a message.
-/

set_option autoImplicit false

namespace ClaimSeal

namespace Ed25519

open Residue

/-- The size of the field. -/
def prime : Nat := Nat.pow 2 255 - 19

/-- The order of the base point. -/
def order : Nat := Nat.pow 2 252 + 27742317777372353535851937790883648493

/-- Twice the constant `d = -121665 / 121666` of the curve. -/
def twiceD : Nat := 2 * (prime - 121665) * invert prime 121666 % prime

/-- A point: it stands for `(x / z, y / z)`, and `t * z = x * y`. -/
structure Point where
  x : Nat
  y : Nat
  z : Nat
  t : Nat

/-- The sum of two points. -/
def plus (p q : Point) : Point :=
  let m := prime
  let a := mul m (sub m p.y p.x) (sub m q.y q.x)
  let b := mul m (p.y + p.x) (q.y + q.x)
  let c := mul m (p.t * twiceD % m) q.t
  let d := mul m (2 * p.z) q.z
  let e := sub m b a
  let f := sub m d c
  let g := add m d c
  let h := add m b a
  ⟨mul m e f, mul m g h, mul m f g, mul m e h⟩

/-- The multiple of a point by the upper `fuel` bits of `n`. -/
def multiply (p : Point) : (fuel n : Nat) → Point
  | 0, _ => ⟨0, 1, 1, 0⟩
  | fuel + 1, n =>
      let r := multiply p fuel (n / 2)
      let r := plus r r
      if n % 2 = 1 then plus r p else r

/-- The base point. -/
def base : Point :=
  let x := 15112221349535400772501151409588531511454012693041857206046113283949847762202
  let y := 46316835694926478169428394003475163141307993866256225615783033603165251855960
  ⟨x, y, 1, x * y % prime⟩

/-- A number with the least significant byte first. -/
def encodeNumber (width n : Nat) : Bytes := (Bytes.ofNat width n).reverse

/-- The number with the least significant byte first. -/
def decodeNumber (b : Bytes) : Nat := Bytes.toNat b.reverse

/-- A point as bytes: its second coordinate and the lowest bit of its first one. -/
def encodePoint (p : Point) : Bytes :=
  let i := invert prime p.z
  let x := mul prime p.x i
  let y := mul prime p.y i
  encodeNumber 32 (y + x % 2 * Nat.pow 2 255)

/-- The multiple of the base point. -/
def basePoint (n : Nat) : Bytes := encodePoint (multiply base 256 n)

/-- The secret number of a seed: a multiple of eight with its highest bit at a fixed place. -/
def secretNumber (seed : Bytes) : Nat :=
  let n := decodeNumber ((Hash.sha512.digest seed).take 32) % Nat.pow 2 254
  Nat.pow 2 254 + n - n % 8

/-- The public key that belongs to a seed. -/
def publicKey (seed : Bytes) : Bytes := basePoint (secretNumber seed)

/-- The signature of a message. -/
def sign (seed message : Bytes) : Bytes :=
  let key := publicKey seed
  let nonce := (Hash.sha512.digest seed).drop 32
  let r := decodeNumber (Hash.sha512.digest (nonce ++ message)) % order
  let point := basePoint r
  let k := decodeNumber (Hash.sha512.digest (point ++ key ++ message)) % order
  point ++ encodeNumber 32 ((r + k * secretNumber seed) % order)

end Ed25519

end ClaimSeal

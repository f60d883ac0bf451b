import ClaimSeal.Bytes
import ClaimSeal.Residue

/-!
**Elliptic curves in short form.**

A curve is given by `y ^ 2 = x ^ 3 + a x + b` over a prime field, a generator and its order.
Points are added in coordinates with a common denominator, so that one inversion at the end
suffices.

Main definitions:

* `Curve.Domain`, `Curve.Point` — a curve, and its points other than the point at infinity;
* `Curve.Domain.multiply?` — multiples of a point;
* `Curve.Domain.decode?` — points from bytes, plain, compressed or both at once.
-/

set_option autoImplicit false

namespace ClaimSeal

namespace Curve

open Residue

/-- A curve with a generator and its order. -/
structure Domain where
  prime : Nat
  a : Nat
  b : Nat
  x : Nat
  y : Nat
  order : Nat
deriving DecidableEq, Repr

/-- A point with two coordinates. -/
structure Point where
  x : Nat
  y : Nat
deriving DecidableEq, Repr

/-- A point in weighted coordinates: it stands for `(x / z ^ 2, y / z ^ 3)`, with `z = 0` for the
point at infinity. -/
structure Weighted where
  x : Nat
  y : Nat
  z : Nat

namespace Domain

/-- The size of a coordinate in bytes. -/
def width (c : Domain) : Nat := Bytes.widthOf c.prime

/-- The size of a coordinate in bits. -/
def size (c : Domain) : Nat := Nat.log2 c.prime + 1

/-- The generator. -/
def generator (c : Domain) : Point := ⟨c.x, c.y⟩

/-- The right-hand side of the equation of the curve. -/
def rightSide (c : Domain) (x : Nat) : Nat := (x * x * x + c.a * x + c.b) % c.prime

/-- Whether a point lies on the curve. -/
def contains (c : Domain) (p : Point) : Bool :=
  p.x < c.prime && p.y < c.prime && p.y * p.y % c.prime = c.rightSide p.x

/-! ### Addition -/

/-- The double of a point. -/
def double (c : Domain) (p : Weighted) : Weighted :=
  if p.z = 0 then p
  else
    let m := c.prime
    let yy := mul m p.y p.y
    let s := mul m (4 * p.x) yy
    let zz := mul m p.z p.z
    let t := (3 * p.x * p.x + c.a * (zz * zz % m)) % m
    let x := sub m (t * t) (2 * s)
    ⟨x, sub m (t * sub m s x) (8 * yy * yy), mul m (2 * p.y) p.z⟩

/-- The sum of two points. -/
def plus (c : Domain) (p q : Weighted) : Weighted :=
  if p.z = 0 then q
  else if q.z = 0 then p
  else
    let m := c.prime
    let pzz := mul m p.z p.z
    let qzz := mul m q.z q.z
    let u := mul m p.x qzz
    let v := mul m q.x pzz
    let s := mul m p.y (qzz * q.z)
    let t := mul m q.y (pzz * p.z)
    if u = v then
      if s = t then c.double p else ⟨1, 1, 0⟩
    else
      let h := sub m v u
      let r := sub m t s
      let hh := mul m h h
      let hhh := mul m hh h
      let w := mul m u hh
      let x := sub m (r * r) (hhh + 2 * w)
      ⟨x, sub m (r * sub m w x) (s * hhh), mul m h (p.z * q.z)⟩

/-- The multiple of a point by the upper `fuel` bits of `n`. -/
def multiplyBits (c : Domain) (p : Weighted) : (fuel n : Nat) → Weighted
  | 0, _ => ⟨1, 1, 0⟩
  | fuel + 1, n =>
      let r := c.double (multiplyBits c p fuel (n / 2))
      if n % 2 = 1 then c.plus r p else r

/-- The point that weighted coordinates stand for, unless it is the point at infinity. -/
def point? (c : Domain) (p : Weighted) : Option Point :=
  if p.z = 0 then none
  else
    let m := c.prime
    let i := invert m p.z
    let ii := mul m i i
    some ⟨mul m p.x ii, mul m p.y (ii * i)⟩

/-- A multiple of a point, unless it is the point at infinity. -/
def multiply? (c : Domain) (n : Nat) (p : Point) : Option Point :=
  c.point? (c.multiplyBits ⟨p.x, p.y, 1⟩ (Nat.log2 n + 1) n)

/-! ### Points from bytes -/

/-- The point with a given first coordinate whose second one is odd or even. -/
def lift? (c : Domain) (x : Nat) (odd : Bool) : Option Point :=
  if x < c.prime then do
    let y ← squareRoot? c.prime (c.rightSide x)
    let y := if y % 2 = odd.toNat then y else (c.prime - y) % c.prime
    if y % 2 = odd.toNat then some ⟨x, y⟩ else none
  else none

/-- A point on the curve from bytes. -/
def decode? (c : Domain) : Bytes → Option Point
  | [] => none
  | form :: rest =>
      let x := Bytes.toNat (rest.take c.width)
      let p : Point := ⟨x, Bytes.toNat (rest.drop c.width)⟩
      if form = 2 ∨ form = 3 then
        if rest.length = c.width then c.lift? x (form = 3) else none
      else if rest.length = 2 * c.width ∧ c.contains p then
        if form = 4 ∨ (form = 6 ∧ p.y % 2 = 0) ∨ (form = 7 ∧ p.y % 2 = 1) then some p else none
      else none

end Domain

end Curve

end ClaimSeal

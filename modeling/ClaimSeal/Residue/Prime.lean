import ClaimSeal.Residue

/-!
**Primality.**

A number is tried in two ways that fail for different composite numbers: by the powers of two, and
by a recurrence of second order whose discriminant is no square modulo the number.  No composite
number is known that passes both.

Main definitions:

* `Residue.symbol` — whether a number is a square modulo each prime of another, as a sign;
* `Residue.Recurrence` — recurrences of second order, term by term, and `Residue.Recurrence.passes`;
* `Residue.isPrime` — the test.
-/

set_option autoImplicit false

namespace ClaimSeal

namespace Residue

/-! ### Powers -/

/-- Whether one of `fuel` squarings takes `x` to minus one. -/
def reachesMinusOne (n : Nat) : (fuel x : Nat) → Bool
  | 0, _ => false
  | fuel + 1, x => x = n - 1 || reachesMinusOne n fuel (x * x % n)

/-- Whether the powers of `a` fail to show that the odd number `n` is composite. -/
def passesPowers (n a : Nat) : Bool :=
  let (s, q) := splitTwos (Nat.log2 n + 1) (n - 1)
  let x := power n a q
  x = 1 || reachesMinusOne n s x

/-! ### Signs -/

/-- The product over the primes of the odd number `n` of the sign that tells whether `a` is a square
modulo the prime, and zero if they have a common factor; `fuel` bounds the steps. -/
def symbolWithin : (fuel a n : Nat) → Int
  | 0, _, _ => 0
  | fuel + 1, a, n =>
      if a = 0 then if n = 1 then 1 else 0
      else
        let (s, q) := splitTwos (Nat.log2 a + 1) a
        let ofTwos : Int := if s % 2 = 1 ∧ (n % 8 = 3 ∨ n % 8 = 5) then -1 else 1
        let ofSwap : Int := if q % 4 = 3 ∧ n % 4 = 3 then -1 else 1
        ofTwos * ofSwap * symbolWithin fuel (n % q) q

/-- The sign of a number modulo the odd number `n`. -/
def symbol (a n : Nat) : Int := symbolWithin (2 * Nat.log2 n + 2) (a % n) n

/-! ### Recurrences -/

/-- A recurrence in which every term is the one before it less `product` times the one before that;
`discriminant` is one less four times the product.  Both are residues. -/
structure Recurrence where
  discriminant : Nat
  product : Nat

/-- Two companion sequences of a recurrence and the power of its product, all at one index. -/
structure Terms where
  first : Nat
  second : Nat
  power : Nat

namespace Recurrence

/-- Half of a residue modulo an odd number. -/
def half (n a : Nat) : Nat := if a % 2 = 0 then a / 2 else (a + n) / 2

/-- The terms at twice the index. -/
def double (n : Nat) (t : Terms) : Terms :=
  ⟨mul n t.first t.second, sub n (t.second * t.second) (2 * t.power), mul n t.power t.power⟩

/-- The terms at the next index. -/
def next (r : Recurrence) (n : Nat) (t : Terms) : Terms :=
  ⟨half n (add n t.first t.second), half n (add n (r.discriminant * t.first) t.second),
    mul n t.power r.product⟩

/-- The terms at the index that the upper `fuel` bits of `k` make up. -/
def terms (r : Recurrence) (n : Nat) : (fuel k : Nat) → Terms
  | 0, _ => ⟨0, 2, 1⟩
  | fuel + 1, k =>
      let t := double n (terms r n fuel (k / 2))
      if k % 2 = 1 then r.next n t else t

/-- Whether the second sequence is zero at the index or after fewer than `fuel` doublings. -/
def reachesZero (n : Nat) : (fuel : Nat) → Terms → Bool
  | 0, _ => false
  | fuel + 1, t => t.second = 0 || reachesZero n fuel (double n t)

/-- Whether a recurrence fails to show that the odd number `n` is composite. -/
def passes (r : Recurrence) (n : Nat) : Bool :=
  let (s, q) := splitTwos (Nat.log2 n + 2) (n + 1)
  let t := r.terms n (Nat.log2 q + 1) q
  t.first = 0 || reachesZero n s t

/-- The recurrence whose discriminant is the first of 5, -7, 9, -11, … from `d` on that has the sign
minus one; at most `fuel` are tried.  A square has none. -/
def choose? (n : Nat) : (fuel d : Nat) → (negative : Bool) → Option Recurrence
  | 0, _, _ => none
  | fuel + 1, d, negative =>
      let flipped : Int := if negative ∧ n % 4 = 3 then -1 else 1
      if flipped * symbol d n = -1 then
        some (if negative then ⟨sub n 0 d, (d + 1) / 4 % n⟩ else ⟨d % n, sub n 0 ((d - 1) / 4)⟩)
      else choose? n fuel (d + 2) !negative

end Recurrence

/-! ### The test -/

/-- The primes that are tried as factors. -/
def smallPrimes : List Nat :=
  [2, 3, 5, 7, 11, 13, 17, 19, 23, 29, 31, 37, 41, 43, 47, 53, 59, 61, 67, 71]

/-- Whether nothing shows that a number is composite. -/
def isPrime (n : Nat) : Bool :=
  if n < 2 then false
  else if smallPrimes.contains n then true
  else if smallPrimes.any (n % · = 0) then false
  else
    passesPowers n 2 &&
      match Recurrence.choose? n 200 5 false with
      | some r => r.passes n
      | none => false

end Residue

end ClaimSeal

/-!
**Arithmetic modulo a number.**

Residues are natural numbers below the modulus.

Main definitions:

* `Residue.power` — powers, by the bits of the exponent;
* `Residue.invert` — inverses, by the extended algorithm of Euclid;
* `Residue.squareRoot?` — square roots modulo an odd prime.

Main results:

* `Residue.power_eq` — a power by bits is the remainder of the power.
-/

set_option autoImplicit false

namespace ClaimSeal

namespace Residue

/-! ### Field operations -/

/-- The sum of two residues. -/
def add (m a b : Nat) : Nat := (a + b) % m

/-- The difference of two residues. -/
def sub (m a b : Nat) : Nat := (a + (m - b % m)) % m

/-- The product of two residues. -/
def mul (m a b : Nat) : Nat := a * b % m

/-- `square * a` or `square`, as the lowest bit of `n` says. -/
def step (m a square n : Nat) : Nat := if n % 2 = 1 then square * a % m else square

/-- The power of `a` by the upper `fuel` bits of `n`. -/
def powerBits (m a : Nat) : (fuel n : Nat) → Nat
  | 0, _ => 1 % m
  | fuel + 1, n =>
      let r := powerBits m a fuel (n / 2)
      step m a (r * r % m) n

/-- The power of a residue. -/
def power (m a n : Nat) : Nat := powerBits m (a % m) (Nat.log2 n + 1) n

theorem step_eq (m a n r : Nat) (h : r = Nat.pow a (n / 2) % m) :
    step m (a % m) (r * r % m) n = Nat.pow a n % m := by
  have hn : n / 2 + n / 2 + n % 2 = n := by omega
  have hs : r * r % m = a ^ (n / 2 + n / 2) % m := by
    rw [h, Nat.pow_add, ← Nat.mul_mod]
    rfl
  have hp : Nat.pow a n = a ^ (n / 2 + n / 2) * a ^ (n % 2) := by
    rw [← Nat.pow_add, hn]
    rfl
  rw [step, hs, hp]
  split
  · next h1 => rw [h1, Nat.pow_one, ← Nat.mul_mod]
  · next h1 =>
      have h0 : n % 2 = 0 := by omega
      rw [h0, Nat.pow_zero, Nat.mul_one]

theorem powerBits_eq (m a fuel n : Nat) (h : n < Nat.pow 2 fuel) :
    powerBits m (a % m) fuel n = Nat.pow a n % m := by
  induction fuel generalizing n with
  | zero =>
      have hn : n = 0 := Nat.lt_one_iff.1 h
      rw [hn]
      rfl
  | succ fuel ih =>
      have hp : Nat.pow 2 (fuel + 1) = Nat.pow 2 fuel * 2 := rfl
      exact step_eq m a n _ (ih (n / 2) (by omega))

/-- A power by bits is the remainder of the power. -/
theorem power_eq (m a n : Nat) : power m a n = Nat.pow a n % m :=
  powerBits_eq m a _ n Nat.lt_log2_self

/-- The steps of the extended algorithm: `old` and `new` are remainders, `s` and `t` what the
number has to be multiplied by to give them. -/
def euclid (m : Nat) : (fuel old new s t : Nat) → Nat
  | 0, _, _, s, _ => s
  | fuel + 1, old, new, s, t =>
      if new = 0 then s
      else
        let q := old / new
        euclid m fuel new (old - q * new) t (sub m s (q * t % m))

/-- The inverse of a residue that has one. -/
def invert (m a : Nat) : Nat := euclid m (2 * Nat.log2 m + 4) (a % m) m 1 0

/-! ### Square roots -/

/-- Takes all factors of two out of `n`: how many there are, and what is left. -/
def splitTwos : (fuel n : Nat) → Nat × Nat
  | 0, n => (0, n)
  | fuel + 1, n =>
      if n % 2 = 0 ∧ 0 < n then
        let (s, q) := splitTwos fuel (n / 2)
        (s + 1, q)
      else (0, n)

/-- The number of squarings, at most `fuel`, that take `t` to one. -/
def squaringsToOne (p : Nat) : (fuel t : Nat) → Nat
  | 0, _ => 0
  | fuel + 1, t => if t = 1 then 0 else squaringsToOne p fuel (t * t % p) + 1

/-- Squares `n` times. -/
def squareTimes (p : Nat) : (n a : Nat) → Nat
  | 0, a => a
  | n + 1, a => squareTimes p n (a * a % p)

/-- Improves a root `r` with error `t` until the error is one; `c` has order `2 ^ m`. -/
def refine (p : Nat) : (fuel m c t r : Nat) → Nat
  | 0, _, _, _, r => r
  | fuel + 1, m, c, t, r =>
      if t = 1 then r
      else
        let i := squaringsToOne p m t
        let b := squareTimes p (m - i - 1) c
        let b2 := b * b % p
        refine p fuel i b2 (t * b2 % p) (r * b % p)

/-- The least number from `start` on that is no square modulo `p`. -/
def nonSquare (p : Nat) : (fuel start : Nat) → Nat
  | 0, n => n
  | fuel + 1, n => if power p n ((p - 1) / 2) = p - 1 then n else nonSquare p fuel (n + 1)

/-- A square root modulo an odd prime, if there is one. -/
def squareRoot? (p a : Nat) : Option Nat :=
  let a := a % p
  let (s, q) := splitTwos (Nat.log2 p + 1) (p - 1)
  let r :=
    if s = 1 then power p a ((p + 1) / 4)
    else refine p (s + 1) s (power p (nonSquare p 1000 2) q) (power p a q) (power p a ((q + 1) / 2))
  if r * r % p = a then some r else none

end Residue

end ClaimSeal

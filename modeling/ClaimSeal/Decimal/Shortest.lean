import ClaimSeal.Text

/-!
**Shortest decimal form of a binary number.**

A finite binary floating-point number is written with the fewest decimal digits that read back as
the same number; of two candidates with that many digits the nearer is taken, and the even one of
two equally near.

Main definitions:

* `Binary`, `Binary.ofFloat` — a number `mantissa * 2 ^ exponent` with the interval of reals that
  round to it;
* `Binary.shortest` — its shortest decimal form as `digits * 10 ^ exponent`;
* `Text.ofFloat` — the text: positional from `1e-4` up to below `1e16`, else with a power of ten
  of at least two digits.
-/

set_option autoImplicit false

namespace ClaimSeal

/-- A positive number `mantissa * 2 ^ exponent`.  `narrow` says that its lower neighbour is half as
far as its upper one. -/
structure Binary where
  mantissa : Nat
  exponent : Int
  narrow : Bool
deriving DecidableEq, Repr

namespace Binary

/-- The number with the given 63 bits of exponent and fraction. -/
def ofBits (bits : Nat) : Binary :=
  let field : Nat := bits / Nat.pow 2 52
  let fraction : Nat := bits % Nat.pow 2 52
  if field = 0 then ⟨fraction, -1074, false⟩
  else ⟨Nat.pow 2 52 + fraction, (field : Int) - 1075, fraction = 0 ∧ 1 < field⟩

/-- A fraction `num / den` for four times the number, and the power of two it is scaled by folded
in, so that the ends of the rounding interval are whole multiples of `unit / den`. -/
structure Scaled where
  num : Nat
  unit : Nat
  den : Nat

/-- The number over a common denominator, in quarters of its last place. -/
def scaled (b : Binary) : Scaled :=
  match b.exponent - 2 with
  | .ofNat k => ⟨4 * b.mantissa * Nat.pow 2 k, Nat.pow 2 k, 1⟩
  | .negSucc k => ⟨4 * b.mantissa, 1, Nat.pow 2 (k + 1)⟩

/-- Whether `digits * gridNum / gridDen` rounds to the number. -/
def accepts (b : Binary) (gridNum gridDen digits : Nat) : Bool :=
  let s := b.scaled
  let point := digits * gridNum * s.den
  let low := (s.num - (if b.narrow then 1 else 2) * s.unit) * gridDen
  let high := (s.num + 2 * s.unit) * gridDen
  if b.mantissa % 2 = 0 then low ≤ point && point ≤ high else low < point && point < high

/-- The candidate on the grid of multiples of `10 ^ e`, if one of the number's two neighbours on
it rounds to the number. -/
def onGrid? (b : Binary) (e : Int) : Option Nat :=
  let (gridNum, gridDen) := match e with
    | .ofNat k => (Nat.pow 10 k, 1)
    | .negSucc k => (1, Nat.pow 10 (k + 1))
  let s := b.scaled
  let below := s.num * gridDen / (s.den * gridNum)
  let twiceRest := 2 * (s.num * gridDen - below * (s.den * gridNum))
  match b.accepts gridNum gridDen below, b.accepts gridNum gridDen (below + 1) with
  | true, true =>
      if twiceRest < s.den * gridNum then some below
      else if s.den * gridNum < twiceRest then some (below + 1)
      else some (if below % 2 = 0 then below else below + 1)
  | true, false => some below
  | false, true => some (below + 1)
  | false, false => none

/-- Tries ever finer grids. -/
def search (b : Binary) : (fuel : Nat) → (e : Int) → Nat × Int
  | 0, e => (0, e)
  | fuel + 1, e =>
      match b.onGrid? e with
      | some digits => (digits, e)
      | none => search b fuel (e - 1)

/-- A power of ten above the number. -/
def ceilingExponent (b : Binary) : Int :=
  (Int.ofNat (Nat.log2 b.mantissa) + b.exponent + 1) * 30103 / 100000 + 2

/-- The shortest decimal form of a positive number. -/
def shortest (b : Binary) : Nat × Int := b.search 30 b.ceilingExponent

end Binary

/-- A decimal number `digits * 10 ^ exponent` in positional form if it lies from `1e-4` up to below
`1e16`, with at least one digit on either side of the point, and else with a power of ten. -/
def Text.ofDecimal (digits : Nat) (exponent : Int) : Text :=
  let ds := Text.ofNat digits
  let point : Int := ds.length + exponent
  if -4 < point ∧ point ≤ 16 then
    if point ≤ 0 then txt "0." ++ List.replicate (-point).toNat (cp '0') ++ ds
    else if exponent < 0 then ds.take point.toNat ++ cp '.' :: ds.drop point.toNat
    else ds ++ List.replicate exponent.toNat (cp '0') ++ txt ".0"
  else
    let power := point - 1
    let magnitude := Text.ofNat power.natAbs
    ds.take 1 ++ (if ds.length ≤ 1 then [] else cp '.' :: ds.drop 1) ++ [cp 'e']
      ++ [if power < 0 then cp '-' else cp '+']
      ++ (if magnitude.length < 2 then [cp '0'] else []) ++ magnitude

/-- A floating-point number as a text. -/
def Text.ofFloat (x : Float) : Text :=
  let bits := x.toBits.toNat
  let sign := if Nat.pow 2 63 ≤ bits then [cp '-'] else []
  let rest := bits % Nat.pow 2 63
  if rest = 0 then sign ++ txt "0.0"
  else if rest = 2047 * Nat.pow 2 52 then sign ++ txt "inf"
  else if 2047 * Nat.pow 2 52 < rest then txt "nan"
  else
    let (digits, exponent) := (Binary.ofBits rest).shortest
    sign ++ Text.ofDecimal digits exponent

end ClaimSeal

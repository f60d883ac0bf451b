import ClaimSeal.Curve.Named
import ClaimSeal.Der

/-!
**Curves as they are encoded.**

A curve is given by its name or by a description of all its parameters, or it is meant without being
given.  A description is only understood if it is that of one of three named curves, byte for byte;
what the parameters were generated from may be left out.

Main definitions:

* `Curve.Description`, `Curve.Name.describe?` — descriptions;
* `Curve.Parameters`, `Curve.Parameters.reader` — curves as they are encoded;
* `Curve.Parameters.name?` — the named curve that is meant.
-/

set_option autoImplicit false

namespace ClaimSeal

namespace Curve

open Der

/-- The field of a curve: of a prime number of elements, or of another kind. -/
inductive Field where
  | prime (p : Nat)
  | other (arcs : List Nat) (parameters : Bytes)
deriving DecidableEq, Repr

/-- A description of a curve.  The seed comes with the number of bits that its last byte has to
spare. -/
structure Description where
  version : Nat
  field : Field
  a : Bytes
  b : Bytes
  seed : Option Bytes
  base : Bytes
  order : Nat
  cofactor : Option Nat
deriving DecidableEq, Repr

/-- A curve as it is encoded. -/
inductive Parameters where
  | named (arcs : List Nat)
  | implied
  | described (d : Description)
deriving DecidableEq, Repr

/-! ### Reading -/

/-- The object identifier of fields of a prime number of elements. -/
def primeFieldArcs : List Nat := [42, 840, 10045, 1, 1]

/-- A field. -/
def Field.reader : Reader Field := record do
  let arcs ← objectId
  if arcs = primeFieldArcs then do pure (prime (← natural))
  else do pure (other arcs (← optionalValue))

/-- The two coefficients, and what they were generated from. -/
def coefficients : Reader (Bytes × Bytes × Option Bytes) := record do
  let a ← octets
  let b ← octets
  let seed ← perhaps (universal 3) (contents (universal 3))
  require ((seed.map fun s => (bitsOf s).isSome).getD true)
  pure (a, b, seed)

/-- A description. -/
def Description.reader : Reader Description := record do
  let version ← small
  let field ← Field.reader
  let (a, b, seed) ← coefficients
  let base ← octets
  let order ← natural
  let cofactor ← perhaps (universal 2) natural
  pure { version, field, a, b, seed, base, order, cofactor }

/-- A curve. -/
def Parameters.reader : Reader Parameters := do
  match ← perhaps (universal 6) objectId with
  | some arcs => pure (named arcs)
  | none =>
      match ← perhaps (universal 5) null with
      | some () => pure implied
      | none => do pure (described (← Description.reader))

/-! ### Meaning -/

/-- What the coefficients of a curve were generated from, if its description is understood. -/
def Name.seed? : Name → Option Bytes
  | secp256r1 => Bytes.ofHex? (ascii "c49d360886e704936a6678e1139d26b7819f7e90")
  | secp384r1 => Bytes.ofHex? (ascii "a335926aa319a27a1d00896a6773a4827acdac73")
  | secp521r1 => Bytes.ofHex? (ascii "d09e8800291cb85396cc6717393284aaa0da64ba")
  | _ => none

/-- The description of a curve, if it is understood. -/
def Name.describe? (n : Name) : Option Description := do
  let seed ← n.seed?
  let c := n.domain
  some {
    version := 1
    field := .prime c.prime
    a := Bytes.ofNat c.width c.a
    b := Bytes.ofNat c.width c.b
    seed := some (0 :: seed)
    base := 4 :: Bytes.ofNat c.width c.x ++ Bytes.ofNat c.width c.y
    order := c.order
    cofactor := some 1 }

/-- Whether a description is that of a curve, with or without its seed. -/
def Name.isDescribedBy (n : Name) (d : Description) : Bool :=
  match n.describe? with
  | none => false
  | some known => d = known || d = { known with seed := none }

/-- The named curve that is meant. -/
def Parameters.name? : Parameters → Option Name
  | named arcs => Name.ofArcs? arcs
  | implied => none
  | described d => Name.all.find? (·.isDescribedBy d)

end Curve

end ClaimSeal

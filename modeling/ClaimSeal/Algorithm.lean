import ClaimSeal.Curve.Named
import ClaimSeal.Datum
import ClaimSeal.Hash
import ClaimSeal.Text.Lower

/-!
**Signing algorithms.**

There are three signatures on elliptic curves, three by an RSA exponent with a salted encoding, and
one on the twisted Edwards curve.  Names are lower case; reading ignores case.

Main definitions:

* `Algorithm`, `Algorithm.name` — the algorithms;
* `Algorithm.family`, `Algorithm.hash?`, `Algorithm.curve?` — what an algorithm asks of a key;
* `Algorithm.ofName?`, `Algorithm.parse` — algorithms by name.
-/

set_option autoImplicit false

namespace ClaimSeal

/-- A signing algorithm. -/
inductive Algorithm where
  | es256
  | es384
  | es512
  | ps256
  | ps384
  | ps512
  | ed25519
deriving DecidableEq, Repr

namespace Algorithm

/-- What kind of key an algorithm takes. -/
inductive Family where
  | ecdsa
  | rsaPss
  | edwards
deriving DecidableEq, Repr

/-- All algorithms. -/
def all : List Algorithm := [es256, es384, es512, ps256, ps384, ps512, ed25519]

/-- The name of an algorithm. -/
def name : Algorithm → Text
  | es256 => txt "es256"
  | es384 => txt "es384"
  | es512 => txt "es512"
  | ps256 => txt "ps256"
  | ps384 => txt "ps384"
  | ps512 => txt "ps512"
  | ed25519 => txt "ed25519"

/-- The kind of key that an algorithm takes. -/
def family : Algorithm → Family
  | es256 | es384 | es512 => .ecdsa
  | ps256 | ps384 | ps512 => .rsaPss
  | ed25519 => .edwards

/-- The hash of an algorithm; the one on the twisted Edwards curve has none to choose. -/
def hash? : Algorithm → Option Hash
  | es256 | ps256 => some .sha256
  | es384 | ps384 => some .sha384
  | es512 | ps512 => some .sha512
  | ed25519 => none

/-- The curve that an algorithm asks for. -/
def curve? : Algorithm → Option Curve.Name
  | es256 => some .secp256r1
  | es384 => some .secp384r1
  | es512 => some .secp521r1
  | _ => none

/-! ### Reading -/

/-- The algorithm with a given name, in letters of either case. -/
def ofName? (t : Text) : Option Algorithm := all.find? (·.name = t.lower)

/-- A value that names no algorithm. -/
structure Unsupported where
  given : Datum

/-- What is wrong with a value that names no algorithm. -/
def Unsupported.message (u : Unsupported) : Text :=
  match u.given with
  | .json (.str t) =>
      txt "Unsupported signing algorithm '" ++ t ++ txt "', expected one of: "
        ++ Text.joinWith (txt ", ") (all.map name)
  | other => txt "Signing algorithm must be a string, got " ++ other.literal

/-- The algorithm that a value names. -/
def parse (d : Datum) : Except Unsupported Algorithm :=
  match d with
  | .json (.str t) =>
      match ofName? t with
      | some a => .ok a
      | none => .error ⟨d⟩
  | _ => .error ⟨d⟩

end Algorithm

end ClaimSeal

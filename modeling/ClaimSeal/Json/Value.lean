import ClaimSeal.Text

/-!
**JSON values.**

Whole numbers are kept apart from floating-point ones, and an object keeps the order of its
members.
-/

set_option autoImplicit false

namespace ClaimSeal

/-- A JSON value. -/
inductive Json where
  | null
  | bool (b : Bool)
  | int (i : Int)
  | float (x : Float)
  | str (t : Text)
  | arr (items : List Json)
  | obj (members : List (Text × Json))
deriving Inhabited

namespace Json

/-- The member of an object with the given name. -/
def member? (name : Text) : Json → Option Json
  | .obj members => members.lookup name
  | _ => none

/-- A member that is absent or null counts as absent. -/
def given? (name : Text) (v : Json) : Option Json :=
  match v.member? name with
  | some .null => none
  | other => other

/-- Whether an object has a member of the given name. -/
def has (name : Text) (v : Json) : Bool := (v.member? name).isSome

end Json

end ClaimSeal

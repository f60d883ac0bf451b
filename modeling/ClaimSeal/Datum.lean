import ClaimSeal.Json.Value
import ClaimSeal.Text.Quoted
import ClaimSeal.Decimal.Shortest

/-!
**Loosely typed values.**

A caller may hand over any value where a name or a path is expected, and a backend any values with
an error.  Such a value is a datum: a JSON value or a byte string.  Messages show it by its
literal.

Main definitions:

* `Datum.literal` — the literal of a value;
* `Datum.shown` — the value in running text: a text stands for itself;
* `Datum.typeName` — the name of the value's type.
-/

set_option autoImplicit false

namespace ClaimSeal

/-- A value of any type. -/
inductive Datum where
  | json (v : Json)
  | bytes (b : Bytes)
deriving Inhabited

namespace Json

mutual

/-- The literal of a value. -/
def literal : Json → Text
  | .null => txt "None"
  | .bool true => txt "True"
  | .bool false => txt "False"
  | .int i => Text.ofInt i
  | .float x => Text.ofFloat x
  | .str t => t.quoted
  | .arr [] => txt "[]"
  | .arr (item :: rest) => cp '[' :: literal item ++ literalItems rest ++ [cp ']']
  | .obj [] => txt "\x7b\x7d"
  | .obj ((name, value) :: rest) =>
      cp '\x7b' :: name.quoted ++ txt ": " ++ literal value ++ literalMembers rest ++ [cp '\x7d']

/-- The items of a list after the first. -/
def literalItems : List Json → Text
  | [] => []
  | item :: rest => txt ", " ++ literal item ++ literalItems rest

/-- The entries of a dictionary after the first. -/
def literalMembers : List (Text × Json) → Text
  | [] => []
  | (name, value) :: rest =>
      txt ", " ++ name.quoted ++ txt ": " ++ literal value ++ literalMembers rest

end

end Json

namespace Datum

/-- The literal of a value. -/
def literal : Datum → Text
  | .json v => v.literal
  | .bytes b => b.quoted

/-- A value in running text: a text as it is, anything else as its literal. -/
def shown : Datum → Text
  | .json (.str t) => t
  | other => other.literal

/-- The literal of the list of values in parentheses. -/
def tuple : List Datum → Text
  | [d] => cp '(' :: d.literal ++ txt ",)"
  | ds => cp '(' :: Text.joinWith (txt ", ") (ds.map literal) ++ [cp ')']

/-- The name of a value's type. -/
def typeName : Datum → Text
  | .json .null => txt "NoneType"
  | .json (.bool _) => txt "bool"
  | .json (.int _) => txt "int"
  | .json (.float _) => txt "float"
  | .json (.str _) => txt "str"
  | .json (.arr _) => txt "list"
  | .json (.obj _) => txt "dict"
  | .bytes _ => txt "bytes"

end Datum

end ClaimSeal

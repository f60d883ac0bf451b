import ClaimSeal.Json.Value
import ClaimSeal.Decimal.Shortest

/-!
**Writing JSON.**

The output is ASCII: a code point outside `U+0020 … U+007E` is written by its UTF-16 units as
`\uhhhh`, save the five control characters that have letters.  In the indented form every member
and item stands on a line of its own, two spaces deeper than its container, and empty containers
stay on one line.

Main definitions:

* `Json.quote` — a string literal;
* `Json.compact`, `Json.indented` — the two layouts.
-/

set_option autoImplicit false

namespace ClaimSeal

namespace Json

/-- A UTF-16 unit by its number. -/
def unitEscape (n : Nat) : Text := txt "\\u" ++ Text.hexPadded 4 n

/-- How a code point is written in a string literal. -/
def escape (c : CodePoint) : Text :=
  if c = cp '"' then txt "\\\""
  else if c = cp '\\' then txt "\\\\"
  else if c = cp '\n' then txt "\\n"
  else if c = cp '\r' then txt "\\r"
  else if c = cp '\t' then txt "\\t"
  else if c.val = 8 then txt "\\b"
  else if c.val = 12 then txt "\\f"
  else if 0x20 ≤ c.val ∧ c.val < 0x7F then [c]
  else if c.val < 0x10000 then unitEscape c.val
  else unitEscape (0xD800 + (c.val - 0x10000) / 0x400) ++ unitEscape (0xDC00 + c.val % 0x400)

/-- The string literal of a text. -/
def quote (t : Text) : Text := cp '"' :: t.flatMap escape ++ [cp '"']

/-- A value that is no container. -/
def scalar : Json → Text
  | .null => txt "null"
  | .bool true => txt "true"
  | .bool false => txt "false"
  | .int i => Text.ofInt i
  | .float x => Text.ofFloat x
  | .str t => quote t
  | .arr _ => txt "[]"
  | .obj _ => txt "\x7b\x7d"

/-- A layout: what stands after an opening bracket, between two parts and before a closing bracket
at a given depth, and what stands after the colon. -/
structure Layout where
  opening : (depth : Nat) → Text
  between : (depth : Nat) → Text
  closing : (depth : Nat) → Text
  colon : Text

/-- Everything on one line. -/
def Layout.compact : Layout where
  opening _ := []
  between _ := txt ","
  closing _ := []
  colon := txt ":"

/-- A line break and the indentation at a depth. -/
def lineAt (depth : Nat) : Text := cp '\n' :: List.replicate (2 * depth) (cp ' ')

/-- Every part on a line of its own. -/
def Layout.indented : Layout where
  opening depth := lineAt (depth + 1)
  between depth := cp ',' :: lineAt (depth + 1)
  closing depth := lineAt depth
  colon := txt ": "

mutual

/-- A value at a depth. -/
def render (l : Layout) (depth : Nat) : Json → Text
  | .arr (item :: rest) =>
      cp '[' :: l.opening depth ++ render l (depth + 1) item ++ renderItems l depth rest
        ++ l.closing depth ++ [cp ']']
  | .obj ((name, value) :: rest) =>
      cp '\x7b' :: l.opening depth ++ quote name ++ l.colon ++ render l (depth + 1) value
        ++ renderMembers l depth rest ++ l.closing depth ++ [cp '\x7d']
  | other => scalar other

/-- The items of an array after the first. -/
def renderItems (l : Layout) (depth : Nat) : List Json → Text
  | [] => []
  | item :: rest => l.between depth ++ render l (depth + 1) item ++ renderItems l depth rest

/-- The members of an object after the first. -/
def renderMembers (l : Layout) (depth : Nat) : List (Text × Json) → Text
  | [] => []
  | (name, value) :: rest =>
      l.between depth ++ quote name ++ l.colon ++ render l (depth + 1) value
        ++ renderMembers l depth rest

end

/-- A value on one line. -/
def compact (v : Json) : Text := render .compact 0 v

/-- A value with its parts on lines of their own. -/
def indented (v : Json) : Text := render .indented 0 v

end Json

end ClaimSeal

import ClaimSeal.Text.Printable

/-!
**Quoted literals of texts and byte strings.**

A literal stands between apostrophes, or between quotation marks if the value holds an apostrophe
and no quotation mark.  The backslash and the delimiter are written after a backslash; tab, line
feed and carriage return have letters; every other code point that is not printable is written by
its number, in the shortest of the forms `\xhh`, `\uhhhh` and `\Uhhhhhhhh`.

Main definitions:

* `Text.quoted` — the literal of a text;
* `Bytes.quoted` — the literal of a byte string, with a `b` in front and ASCII only.
-/

set_option autoImplicit false

namespace ClaimSeal

/-- The delimiter of a literal, given whether its value holds an apostrophe and whether it holds a
quotation mark. -/
def quoteMark (hasApostrophe hasQuotation : Bool) : CodePoint :=
  if hasApostrophe && !hasQuotation then cp '"' else cp '\''

/-- How a code point with a short escape is written between the given delimiters. -/
def CodePoint.shortEscape? (mark c : CodePoint) : Option Text :=
  if c = mark ∨ c = cp '\\' then some [cp '\\', c]
  else if c = cp '\n' then some (txt "\\n")
  else if c = cp '\r' then some (txt "\\r")
  else if c = cp '\t' then some (txt "\\t")
  else none

/-- A code point by its number. -/
def CodePoint.numberEscape (c : CodePoint) : Text :=
  if c.val < 0x100 then txt "\\x" ++ Text.hexPadded 2 c.val
  else if c.val < 0x10000 then txt "\\u" ++ Text.hexPadded 4 c.val
  else txt "\\U" ++ Text.hexPadded 8 c.val

/-- How a code point is written between the given delimiters. -/
def CodePoint.quotedIn (mark c : CodePoint) : Text :=
  match CodePoint.shortEscape? mark c with
  | some t => t
  | none => if c.isPrintable then [c] else c.numberEscape

/-- The literal of a text. -/
def Text.quoted (t : Text) : Text :=
  let mark := quoteMark (t.contains (cp '\'')) (t.contains (cp '"'))
  mark :: t.flatMap (CodePoint.quotedIn mark) ++ [mark]

/-- How a byte is written between the given delimiters. -/
def quotedByte (mark : CodePoint) (b : UInt8) : Text :=
  let c := CodePoint.ofNat b.toNat
  match CodePoint.shortEscape? mark c with
  | some t => t
  | none => if 0x20 ≤ b && b < 0x7F then [c] else c.numberEscape

/-- The literal of a byte string. -/
def Bytes.quoted (b : Bytes) : Text :=
  let mark := quoteMark (b.contains 39) (b.contains 34)
  cp 'b' :: mark :: b.flatMap (quotedByte mark) ++ [mark]

end ClaimSeal

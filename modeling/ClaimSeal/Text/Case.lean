import ClaimSeal.Text

/-!
**Case folding.**

Case folding is needed only against names of ASCII letters and digits, so the table holds the code
points whose image is ASCII; every other code point is kept, and keeps a text different from such a
name.

Main definitions:

* `CodePoint.asciiLower` — lower case of the ASCII capitals;
* `Text.fold` — case folding.
-/

set_option autoImplicit false

namespace ClaimSeal

namespace CodePoint

/-- ASCII capitals become small letters; all else stays. -/
def asciiLower (c : CodePoint) : CodePoint :=
  if 65 ≤ c.val ∧ c.val ≤ 90 then CodePoint.ofNat (c.val + 32) else c

/-- Case folding on the code points whose folding is ASCII: the capitals, KELVIN SIGN, LATIN SMALL
LETTER LONG S, the sharp s in both cases and the ligatures of f and of s with t. -/
def fold (c : CodePoint) : Text :=
  if c.val = 0x212A then [cp 'k']
  else if c.val = 0x017F then [cp 's']
  else if c.val = 0x00DF ∨ c.val = 0x1E9E then txt "ss"
  else if c.val = 0xFB00 then txt "ff"
  else if c.val = 0xFB01 then txt "fi"
  else if c.val = 0xFB02 then txt "fl"
  else if c.val = 0xFB03 then txt "ffi"
  else if c.val = 0xFB04 then txt "ffl"
  else if c.val = 0xFB05 ∨ c.val = 0xFB06 then txt "st"
  else [c.asciiLower]

end CodePoint

namespace Text

/-- The case folding of a text. -/
def fold (t : Text) : Text := t.flatMap CodePoint.fold

end Text

end ClaimSeal

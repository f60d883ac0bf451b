import ClaimSeal.Base64
import ClaimSeal.Text.Utf8

/-!
**Armoured blocks.**

A block stands between a line that begins and a line that ends it, both with the same label.  Its
body may open with headers, closed by an empty line; the rest of the body is base64, with white
space anywhere.  What stands outside of the blocks is ignored, but one malformed block spoils the
whole.

A marker is found by comparing byte after byte: at a mismatch the comparison starts over with the
byte that follows, so a marker whose beginning overlaps such an attempt is missed.

Main definitions:

* `Pem.Block` — the label, the headers and the contents of a block;
* `Pem.parse?` — all blocks of a byte string;
* `Pem.Block.header?` — the value of a header; of several with one name the last counts.
-/

set_option autoImplicit false

namespace ClaimSeal

namespace Pem

/-- A block. -/
structure Block where
  label : Bytes
  headers : List (Text × Text)
  contents : Bytes
deriving DecidableEq

/-! ### Markers -/

/-- Cuts a byte string at a marker, of which `matched` bytes have just been seen; `seen` holds all
bytes so far, latest first. -/
def cutFrom (marker : Bytes) (matched : Nat) (seen : Bytes) : Bytes → Option (Bytes × Bytes)
  | [] => none
  | x :: rest =>
      let now := if marker[matched]? = some x then matched + 1 else 0
      if now = marker.length then some ((seen.drop (now - 1)).reverse, rest)
      else cutFrom marker now (x :: seen) rest

/-- What stands before a marker and what stands after it. -/
def cut? (marker b : Bytes) : Option (Bytes × Bytes) := cutFrom marker 0 [] b

/-- White space between the lines of a block. -/
def isBlank (c : UInt8) : Bool := c = 32 || c = 9 || c = 10 || c = 13

/-- The parts of a block as they stand. -/
structure Raw where
  opening : Bytes
  body : Bytes
  closing : Bytes

/-- The first block of a byte string, and what follows it. -/
def raw? (b : Bytes) : Option (Raw × Bytes) := do
  let (_, b) ← cut? (ascii "-----BEGIN ") b
  let (opening, b) ← cut? (ascii "-----") b
  let (body, b) ← cut? (ascii "-----END ") (b.dropWhile isBlank)
  let (closing, b) ← cut? (ascii "-----") b
  some (⟨opening, body, closing⟩, b.dropWhile isBlank)

/-! ### Headers and contents -/

/-- White space in text. -/
def isSpace (c : CodePoint) : Bool :=
  let n := c.val
  (9 ≤ n && n ≤ 13) || n = 0x20 || n = 0x85 || n = 0xA0 || n = 0x1680 || (0x2000 ≤ n && n ≤ 0x200A)
    || n = 0x2028 || n = 0x2029 || n = 0x202F || n = 0x205F || n = 0x3000

/-- Takes white space off both ends. -/
def trim (t : Text) : Text := ((t.dropWhile isSpace).reverse.dropWhile isSpace).reverse

/-- Takes one carriage return off the end. -/
def dropReturn (t : Text) : Text :=
  match t.getLast? with
  | some c => if c = cp '\r' then t.dropLast else t
  | none => t

/-- The lines of a text; the last one may lack its end. -/
def lines (t : Text) : List Text :=
  let parts := t.splitAt (cp '\n')
  let whole := if parts.getLast? = some [] then parts.dropLast else parts
  whole.map dropReturn

/-- The name and the value of a header. -/
def header? (line : Text) : Option (Text × Text) :=
  (line.cutAt? (cp ':')).map fun (name, value) => (trim name, trim value)

/-- Cuts the headers off the body. -/
def cutHeaders (body : Bytes) : Bytes × Bytes :=
  match cut? (ascii "\n\n") body with
  | some parts => parts
  | none => (cut? (ascii "\r\n\r\n") body).getD ([], body)

/-- The block that the parts make up. -/
def Raw.block? (r : Raw) : Option Block := do
  let label ← Utf8.decode? r.opening
  let _ ← Utf8.decode? r.closing
  let (headers, data) := cutHeaders r.body
  let digits ← Utf8.decode? data
  let contents ← (Text.toAscii? (digits.filter (!isSpace ·))).bind Base64.decode?
  let headers ← (lines (← Utf8.decode? headers)).mapM header?
  if label.isEmpty ∨ r.opening ≠ r.closing then none
  else some ⟨r.opening, headers, contents⟩

/-- The blocks of a byte string; `fuel` bounds their number. -/
def blocks? : (fuel : Nat) → Bytes → Option (List Block)
  | 0, _ => some []
  | fuel + 1, b =>
      match raw? b with
      | none => some []
      | some (r, rest) => do
          let block ← r.block?
          let others ← blocks? fuel rest
          some (block :: others)

/-- All blocks of a byte string, if none of them is malformed. -/
def parse? (b : Bytes) : Option (List Block) := blocks? b.length b

/-- The value of a header. -/
def Block.header? (block : Block) (name : Text) : Option Text :=
  block.headers.reverse.lookup name

end Pem

end ClaimSeal

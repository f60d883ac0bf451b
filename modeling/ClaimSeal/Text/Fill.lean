import ClaimSeal.Text

/-!
**Filling lines.**

A text is cut into chunks that stay together: words, and the parts of a word up to a hyphen between
letters.  Lines take as many chunks as fit; the spaces between two lines are dropped.

Main definitions:

* `Text.chunks` — the chunks, with the number of spaces before each;
* `Text.fill` — the lines.
-/

set_option autoImplicit false

namespace ClaimSeal

namespace Text

/-- What stays together in a line, and the number of spaces before it. -/
structure Chunk where
  spaces : Nat
  word : Text
deriving DecidableEq, Repr

/-- Whether a hyphen that follows `before`, latest first, and precedes `after` may end a line. -/
def breaksAt (before after : Text) : Bool :=
  match before, after with
  | a :: b :: _, c :: d :: _ =>
      a.isAsciiLetter && b.isAsciiLetter && c.isAsciiLetter && d.isAsciiLetter
  | _, _ => false

/-- A chunk from its letters, latest first, if there are any. -/
def chunkOf (spaces : Nat) (letters : Text) : List Chunk :=
  if letters.isEmpty then [] else [⟨spaces, letters.reverse⟩]

/-- The chunks of a text; `spaces` and `letters`, latest first, belong to the current one. -/
def chunksFrom (spaces : Nat) (letters : Text) : Text → List Chunk
  | [] => chunkOf spaces letters
  | c :: rest =>
      if c = cp ' ' then
        if letters.isEmpty then chunksFrom (spaces + 1) [] rest
        else chunkOf spaces letters ++ chunksFrom 1 [] rest
      else if c = cp '-' && breaksAt letters rest then
        chunkOf spaces (c :: letters) ++ chunksFrom 0 [] rest
      else chunksFrom spaces (c :: letters) rest

/-- The chunks of a text. -/
def chunks (t : Text) : List Chunk := chunksFrom 0 [] t

/-- Adds chunks to a line as long as they fit into `width`, and then begins the next line. -/
def fillFrom (width : Nat) (line : Text) : List Chunk → List Text
  | [] => if line.isEmpty then [] else [line]
  | c :: rest =>
      if line.isEmpty then fillFrom width c.word rest
      else
        let longer := line ++ List.replicate c.spaces (cp ' ') ++ c.word
        if longer.length ≤ width then fillFrom width longer rest
        else line :: fillFrom width c.word rest

/-- The lines of a text, each of at most `width` code points if no chunk is longer. -/
def fill (width : Nat) (t : Text) : List Text := fillFrom width [] t.chunks

end Text

end ClaimSeal

import ClaimSeal.CommandLine.Syntax
import ClaimSeal.Text.Fill

/-!
**Help.**

The help of a command shows its usage, what it does, its options and the commands below it, in lines
of at most 78 columns.  Options and commands stand in two columns: the first is as wide as its
widest entry, but not wider than thirty, and an entry that is wider has a line of its own.

Main definitions:

* `Command.usage` — the usage of a command;
* `Command.help` — its help;
* `UsageError.shown` — what is shown of a wrong command line.
-/

set_option autoImplicit false

namespace ClaimSeal

namespace CommandLine

/-- The number of columns. -/
def columns : Nat := 78

/-- The widest first column. -/
def firstColumn : Nat := 30

/-- A line break. -/
def newline : Text := [cp '\n']

/-- Spaces. -/
def blanks (n : Nat) : Text := List.replicate n (cp ' ')

/-! ### Parts of the help -/

/-- The usage of a command that is called by `path`. -/
def Command.usage (c : Command) (path : Text) : Text :=
  let rest :=
    match c.argument? with
    | some placeholder => placeholder
    | none => c.belowPlaceholder
  txt "Usage: " ++ path ++ txt " [OPTIONS] " ++ rest ++ newline

/-- A paragraph. -/
def paragraph (t : Text) : Text :=
  newline ++ (Text.fill (columns - 2) t).flatMap fun line => blanks 2 ++ line ++ newline

/-- What an option is called in the help. -/
def Flag.entry (f : Flag) : Text :=
  let metavar :=
    if f.role ≠ .value then []
    else if f.placeholder.isEmpty then
      txt " [" ++ Text.joinWith (txt "|") f.choices ++ txt "]"
    else cp ' ' :: f.placeholder
  Text.joinWith (txt ", ") f.names ++ metavar

/-- What the help says about an option. -/
def Flag.explanation (f : Flag) : Text :=
  let note :=
    match f.default? with
    | some value => if f.showsDefault then txt "  [default: " ++ value ++ txt "]" else []
    | none => if f.isRequired then txt "  [required]" else []
  f.help ++ note

/-- An entry of a table whose first column is `width` wide, spaces included. -/
def row (width : Nat) (first second : Text) : Text :=
  let head :=
    if first.length + 2 ≤ width then blanks 2 ++ first ++ blanks (width - first.length)
    else blanks 2 ++ first ++ newline ++ blanks (width + 2)
  head ++ Text.joinWith (newline ++ blanks (width + 2)) (Text.fill (columns - width - 2) second)
    ++ newline

/-- A table with a title. -/
def table (title : Text) (rows : List (Text × Text)) : Text :=
  let widest := (rows.map fun r => r.1.length).foldl max 0
  let width := min widest firstColumn + 2
  newline ++ title ++ txt ":\n" ++ rows.flatMap fun r => row width r.1 r.2

/-- The help of a command that is called by `path`. -/
def Command.help (c : Command) (path : Text) : Text :=
  c.usage path ++ paragraph c.summary ++ c.paragraphs.flatMap paragraph
    ++ table (txt "Options") (c.flags.map fun f => (f.entry, f.explanation))
    ++ if c.below.isEmpty then [] else table (txt "Commands") c.below

/-! ### Wrong command lines -/

/-- What is shown of a wrong command line. -/
def UsageError.shown (e : UsageError) (c : Command) (path : Text) : Text :=
  let hint :=
    if e.showsUsage then
      c.usage path ++ txt "Try '" ++ path ++ txt " --help' for help.\n\n"
    else []
  hint ++ txt "Error: " ++ e.message ++ newline

end CommandLine

end ClaimSeal

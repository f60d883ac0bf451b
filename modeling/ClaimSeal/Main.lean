import ClaimSeal.CommandLine.Program

/-!
**The command line on real files.**

The program itself is a function of the files it is given.  Here those files are read that its words
may name, the program is run on them, and what it changed is written back.
-/

set_option autoImplicit false

namespace ClaimSeal

namespace Shell

/-- A text as a string. -/
def toString (t : Text) : String := String.ofList (t.map fun c => Char.ofNat c.val)

/-- A location as a path. -/
def pathOf (l : Location) : String :=
  "/" ++ "/".intercalate (l.map fun name => toString (Text.ofFileName name))

/-- The location that a path's leading parts lead to, without looking at the files. -/
def locationOf (here : Location) (p : Path) : Location :=
  p.parts.foldl (fun l part =>
    if part = txt ".." then l.dropLast else l ++ [part.flatMap Utf8.encodePoint])
    (if p.slashes = 0 then here else [])

/-- A path cut off after `n` parts. -/
def upTo (n : Nat) (p : Path) : Path :=
  { p with
    parts := p.parts.take n
    isPart_of_mem := fun part h => p.isPart_of_mem part (List.mem_of_mem_take h)
    not_mem := fun part h => p.not_mem part (List.mem_of_mem_take h) }

/-- The paths that words may name: the words themselves, what follows an equals sign in them, and
where the signature goes by default; with all that leads there. -/
def named (words : List Text) : List Path :=
  let whole := words ++ words.filterMap (fun w => (w.cutAt? (cp '=')).map Prod.snd)
    ++ CommandLine.signatureFlag.default?.toList
  whole.flatMap fun t =>
    let p := Path.parse t
    (List.range (p.parts.length + 1)).map fun n => upTo n p

/-- Adds what is found at a path to a store.  What cannot be read for the kind it is of, in a
directory, is a directory. -/
def load (s : FileStore) (p : Path) : IO FileStore := do
  let l := locationOf s.here p
  try
    let content ← IO.FS.readBinFile (toString p.text)
    return s.put l content.toList
  catch
    | .inappropriateType .. =>
        return if s.isDir l.dropLast then { s with dirs := l :: s.dirs } else s
    | _ => return s

/-- Writes the files that differ from what they were, and removes those that are gone. -/
def store (before after : FileStore) : IO Unit := do
  for (l, content) in after.files do
    if before.content? l ≠ some content then
      IO.FS.writeBinFile (pathOf l) ⟨content.toArray⟩
  for (l, _) in before.files do
    if (after.content? l).isNone then IO.FS.removeFile (pathOf l)

/-- Runs the program. -/
def run (words : List String) : IO UInt32 := do
  let words := words.map txt
  let here := (txt (← IO.currentDir).toString).splitAt Path.slash |>.filter Path.isPart
  let empty : FileStore := ⟨here.map (·.flatMap Utf8.encodePoint), [], []⟩
  let files ← (named words).foldlM load empty
  let level ← IO.getEnv "CLAIM_SIGNING_LOG_LEVEL"
  let call : CommandLine.Call := {
    program := txt "claim_signing"
    environment := level.toList.map fun v => (txt "CLAIM_SIGNING_LOG_LEVEL", txt v)
    words := words }
  let (report, after) := CommandLine.run call files
  store files after
  IO.eprint (toString report.err)
  IO.print (toString report.out)
  return UInt32.ofNat report.exit

end Shell

end ClaimSeal

/-- The program. -/
def main (words : List String) : IO UInt32 := ClaimSeal.Shell.run words

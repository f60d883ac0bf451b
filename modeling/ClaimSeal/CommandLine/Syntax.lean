import ClaimSeal.Text.Case
import ClaimSeal.Text.Quoted
import ClaimSeal.Text.Similarity

/-!
**Command lines.**

A command has options and perhaps an argument, or it has further commands below it.  The words after
a command are sorted into uses of options and other words; a command with others below it stops at
the first word that is no option.  Then every option gets its value: from the line, from the
environment, or by default.

Options come by their long names, with a value after an equals sign or in the next word, or by
letters after a single dash, which take no value.  Two dashes end the options.

Main definitions:

* `Command`, `Flag`, `Role` — commands and their options;
* `Command.scan` — sorting the words;
* `Command.settle` — giving every option its value;
* `UsageError`, `UsageError.message` — what may be wrong with a command line.
-/

set_option autoImplicit false

namespace ClaimSeal

namespace CommandLine

/-- What an option is for: it shows the help or the version, or it has a value. -/
inductive Role where
  | help
  | version
  | value
deriving DecidableEq, Repr

/-- An option.  Where there are choices the value is one of them, in letters of either case. -/
structure Flag where
  names : List Text
  role : Role := .value
  placeholder : Text := []
  choices : List Text := []
  isRequired : Bool := false
  envName? : Option Text := none
  default? : Option Text := none
  showsDefault : Bool := false
  help : Text
deriving DecidableEq, Repr

/-- A command with what its help says.  The summary is the first paragraph. -/
structure Command where
  summary : Text
  paragraphs : List Text
  flags : List Flag
  argument? : Option Text := none
  below : List (Text × Text) := []
  belowPlaceholder : Text := []
deriving DecidableEq, Repr

/-- What may be wrong with a command line. -/
inductive UsageError where
  | noSuchOption (name : Text) (similar : List Text)
  | noSuchCommand (name : Text) (similar : List Text)
  | needsValue (name : Text)
  | takesNoValue (name : Text)
  | missingArgument (placeholder : Text)
  | missingOption (name : Text) (choices : List Text)
  | missingCommand
  | notAChoice (name value : Text) (choices : List Text)
  | unexpected (words : List Text)
deriving DecidableEq, Repr

namespace UsageError

/-- A suggestion of similar names. -/
def suggestion : List Text → Text
  | [] => []
  | [t] => txt " Did you mean " ++ t.quoted ++ txt "?"
  | ts => txt " (Did you mean one of: " ++ Text.joinWith (txt ", ") (ts.map Text.quoted) ++ txt "?)"

/-- What is said about the error. -/
def message : UsageError → Text
  | noSuchOption name similar =>
      txt "No such option " ++ name.quoted ++ txt "." ++ suggestion similar
  | noSuchCommand name similar =>
      txt "No such command " ++ name.quoted ++ txt "." ++ suggestion similar
  | needsValue name => txt "Option " ++ name.quoted ++ txt " requires an argument."
  | takesNoValue name => txt "Option " ++ name.quoted ++ txt " does not take a value."
  | missingArgument placeholder => txt "Missing argument '" ++ placeholder ++ txt "'."
  | missingOption name [] => txt "Missing option '" ++ name ++ txt "'."
  | missingOption name choices =>
      txt "Missing option '" ++ name ++ txt "'. Choose from:\n\t"
        ++ Text.joinWith (txt ",\n\t") choices
  | missingCommand => txt "Missing command."
  | notAChoice name value choices =>
      txt "Invalid value for '" ++ name ++ txt "': " ++ value.quoted ++ txt " is not one of "
        ++ Text.joinWith (txt ", ") (choices.map Text.quoted) ++ txt "."
  | unexpected [word] => txt "Got unexpected extra argument (" ++ word ++ txt ")"
  | unexpected words =>
      txt "Got unexpected extra arguments (" ++ Text.joinWith (txt " ") words ++ txt ")"

/-- Whether the error is shown together with the usage of the command. -/
def showsUsage : UsageError → Bool
  | needsValue _ | takesNoValue _ => false
  | _ => true

end UsageError

/-! ### Names -/

/-- Whether a word starts like an option. -/
def looksLikeOption : Text → Bool
  | c :: _ :: _ => c = cp '-'
  | _ => false

/-- Whether a name is a long one. -/
def isLong (name : Text) : Bool := (txt "--").isPrefixOf name && 2 < name.length

/-- The name by which an option is spoken of: its longest one. -/
def Flag.name (f : Flag) : Text := (f.names.find? isLong).getD (f.names.headD [])

/-- The option with a given name. -/
def Command.flag? (c : Command) (name : Text) : Option Flag :=
  c.flags.find? fun f => f.names.contains name

/-- The option with a given long name. -/
def Command.longFlag? (c : Command) (name : Text) : Option Flag :=
  if isLong name then c.flag? name else none

/-- All long names. -/
def Command.longNames (c : Command) : List Text := (c.flags.flatMap Flag.names).filter isLong

/-! ### Sorting the words -/

/-- A use of an option, with the value that was given. -/
structure Use where
  flag : Flag
  value : Text
deriving DecidableEq, Repr

/-- The words of a command line, sorted. -/
structure Scan where
  uses : List Use
  words : List Text
deriving DecidableEq, Repr

/-- What a word that starts like an option stands for: uses, and perhaps an option whose value is
in the next word, with the name it was called by. -/
structure Opening where
  uses : List Use
  waiting : Option (Text × Flag)
deriving DecidableEq, Repr

/-- Options by letters. -/
def Command.letters (c : Command) : Text → Except UsageError (List Use)
  | [] => .ok []
  | l :: rest =>
      match c.flag? [cp '-', l] with
      | none => .error (.noSuchOption [cp '-', l] [])
      | some f => do
          let others ← c.letters rest
          return ⟨f, []⟩ :: others

/-- A word that starts like an option. -/
def Command.opening (c : Command) (word : Text) : Except UsageError Opening :=
  let (name, value) :=
    match word.cutAt? (cp '=') with
    | some (name, value) => (name, some value)
    | none => (word, none)
  match c.longFlag? name with
  | some f =>
      if f.role = .value then
        match value with
        | some v => .ok ⟨[⟨f, v⟩], none⟩
        | none => .ok ⟨[], some (name, f)⟩
      else if value.isSome then .error (.takesNoValue name)
      else .ok ⟨[⟨f, []⟩], none⟩
  | none =>
      if (txt "--").isPrefixOf word then
        .error (.noSuchOption name (Text.similarTo name c.longNames))
      else (c.letters (word.drop 1)).map fun uses => ⟨uses, none⟩

/-- Sorts the words; the first one may be the value of an option that waits for it. -/
def Command.scanFrom (c : Command) (waiting : Option (Text × Flag)) :
    List Text → Except UsageError Scan
  | [] =>
      match waiting with
      | some (name, _) => .error (.needsValue name)
      | none => .ok ⟨[], []⟩
  | word :: rest =>
      match waiting with
      | some (_, f) => do
          let s ← c.scanFrom none rest
          return { s with uses := ⟨f, word⟩ :: s.uses }
      | none =>
          if word = txt "--" then .ok ⟨[], rest⟩
          else if looksLikeOption word then do
            let o ← c.opening word
            let s ← c.scanFrom o.waiting rest
            return { s with uses := o.uses ++ s.uses }
          else if c.below.isEmpty then do
            let s ← c.scanFrom none rest
            return { s with words := word :: s.words }
          else .ok ⟨[], word :: rest⟩

/-- Sorts the words after a command. -/
def Command.scan (c : Command) (words : List Text) : Except UsageError Scan :=
  c.scanFrom none words

/-! ### Giving values -/

/-- Why a command is not run: something else is asked for, or the line is wrong. -/
inductive Stop where
  | help
  | version
  | usage (e : UsageError)
deriving DecidableEq, Repr

/-- The values of the options, by their names, the argument, and the words left over. -/
structure Settled where
  values : List (Text × Text)
  argument : Text
  words : List Text
deriving DecidableEq, Repr

/-- The value of an option. -/
def Settled.value? (s : Settled) (name : Text) : Option Text := s.values.lookup name

/-- The choices as they are compared. -/
def Flag.folded (f : Flag) : List Text := f.choices.map Text.fold

/-- The value that is meant: one of the choices, if there are any. -/
def Flag.meant (f : Flag) (value : Text) : Except UsageError Text :=
  if f.choices.isEmpty then .ok value
  else
    match f.choices.find? fun c => c.fold = value.fold with
    | some choice => .ok choice
    | none => .error (.notAChoice f.name value f.folded)

/-- The last value given to each option, in the order of first uses. -/
def lastValues : List Use → List Use
  | [] => []
  | u :: rest =>
      let later := lastValues rest
      match later.find? fun v => v.flag = u.flag with
      | some v => v :: later.filter fun w => w.flag ≠ u.flag
      | none => u :: later

/-- The value of an option that is not used in the line. -/
def Flag.unused (f : Flag) (environment : Text → Option Text) :
    Except UsageError (Option Text) :=
  match (f.envName?.bind environment).filter (!·.isEmpty) with
  | some value => (f.meant value).map some
  | none =>
      match f.default? with
      | some value => .ok (some value)
      | none => if f.isRequired then .error (.missingOption f.name f.folded) else .ok none

/-- The value of each option that is used. -/
def usedValues (uses : List Use) : Except UsageError (List (Text × Text)) :=
  uses.mapM fun u => (u.flag.meant u.value).map fun v => (u.flag.name, v)

/-- The value of each option that is not used. -/
def unusedValues (environment : Text → Option Text) :
    List Flag → Except UsageError (List (Text × Text))
  | [] => .ok []
  | f :: rest => do
      let value ← f.unused environment
      let others ← unusedValues environment rest
      match value with
      | some v => return (f.name, v) :: others
      | none => return others

/-- The argument of a command and the words after it. -/
def Command.takeArgument (c : Command) (words : List Text) :
    Except UsageError (Text × List Text) :=
  match c.argument?, words with
  | none, words => .ok ([], words)
  | some _, word :: rest => .ok (word, rest)
  | some placeholder, [] => .error (.missingArgument placeholder)

/-- Gives every option its value.  Help and version come first, then options in the order of their
first uses, then the argument, then the options that are not used. -/
def Command.settle (c : Command) (environment : Text → Option Text) (s : Scan) :
    Except Stop Settled :=
  match s.uses.find? fun u => u.flag.role ≠ .value with
  | some u => .error (if u.flag.role = .help then .help else .version)
  | none =>
      Except.mapError Stop.usage do
        let uses := lastValues s.uses
        let used ← usedValues uses
        let (argument, words) ← c.takeArgument s.words
        let unused ← unusedValues environment
          (c.flags.filter fun f => f.role = .value && !(uses.any fun u => u.flag = f))
        if c.below.isEmpty && !words.isEmpty then .error (.unexpected words)
        return ⟨used ++ unused, argument, words⟩

/-- Reads the words after a command. -/
def Command.parse (c : Command) (environment : Text → Option Text) (words : List Text) :
    Except Stop Settled :=
  match c.scan words with
  | .error e => .error (.usage e)
  | .ok s => c.settle environment s

end CommandLine

end ClaimSeal

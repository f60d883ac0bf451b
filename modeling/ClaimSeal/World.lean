import ClaimSeal.Failure

/-!
**What operations act on.**

An action works on the state of a backend alone; an operation also reads and writes files and
writes log lines.  Both may fail, and what they did before they failed stays done.

Main definitions:

* `Action` — what a signer's methods are;
* `World`, `Operation` — files, log and backend, and what works on them;
* `Operation.log`, `Operation.readFile`, `Operation.writeFile`, `Operation.act` — the steps that
  operations are made of;
* `Disk` — ways to write and remove files.

A file operation on the store either is done or fails before it changes anything.  A disk may do
otherwise: it may be full in the middle of a file, and it may refuse to remove one.
-/

set_option autoImplicit false

namespace ClaimSeal

/-- A method of a signer whose backend has state `σ`. -/
abbrev Action (σ α : Type) := ExceptT Failure (StateM σ) α

/-- How important a log line is. -/
inductive Level where
  | debug
  | info
  | warning
  | error
  | critical
deriving DecidableEq, Repr

/-- The number of a level; more important ones have greater numbers. -/
def Level.rank : Level → Nat
  | debug => 10
  | info => 20
  | warning => 30
  | error => 40
  | critical => 50

/-- A log line. -/
structure LogLine where
  level : Level
  text : Text
deriving DecidableEq, Repr

/-- The files, the log and the state of the backend. -/
structure World (σ : Type) where
  files : FileStore
  log : List LogLine
  backend : σ

/-- What works on files, log and backend. -/
abbrev Operation (σ α : Type) := ExceptT Failure (StateM (World σ)) α

namespace Operation

variable {σ α : Type}

/-- Runs an action on the backend. -/
def act (a : Action σ α) : Operation σ α := fun w =>
  match a w.backend with
  | (r, backend) => (r, { w with backend })

/-- Writes a log line. -/
def log (level : Level) (text : Text) : Operation σ Unit :=
  modify fun w => { w with log := w.log ++ [⟨level, text⟩] }

/-- Goes on with a value or fails. -/
def ofExcept {ε : Type} (failure : ε → Failure) : Except ε α → Operation σ α
  | .ok a => pure a
  | .error e => throw (failure e)

/-- The path that a caller means. -/
def path (p : PathArg) : Operation σ Path := ofExcept (fun d => .path (.notAPath d)) p.toPath

/-- The content of a file; a failure of the file operation is reported as `report` says. -/
def readFileOr (report : FileError → Failure) (p : Path) : Operation σ Bytes := do
  let sys ← ofExcept Failure.path p.toSystem
  let w ← get
  ofExcept report (w.files.read sys)

/-- The content of a file. -/
def readFile (p : Path) : Operation σ Bytes := readFileOr Failure.file p

/-- Writes a file. -/
def writeFile (p : Path) (content : Bytes) : Operation σ Unit := do
  let sys ← ofExcept Failure.path p.toSystem
  let w ← get
  let files ← ofExcept Failure.file (w.files.write sys content)
  set { w with files }

/-- Removes a file if it is there. -/
def removeFile (p : Path) : Operation σ Unit := do
  let sys ← ofExcept Failure.path p.toSystem
  let w ← get
  let files ← ofExcept Failure.file (w.files.remove sys)
  set { w with files }

/-- Runs an operation and gives its outcome as a value. -/
def outcome (o : Operation σ α) : Operation σ (Except Failure α) := fun w =>
  match o w with
  | (r, w) => (.ok r, w)

end Operation

/-- A way to write files and to remove them. -/
structure Disk (σ : Type) where
  write : Path → Bytes → Operation σ Unit
  remove : Path → Operation σ Unit

/-- The file operations of the store. -/
def Disk.store {σ : Type} : Disk σ := ⟨Operation.writeFile, Operation.removeFile⟩

end ClaimSeal

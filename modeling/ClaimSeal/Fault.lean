import ClaimSeal.Datum

/-!
**Faults of backends.**

A backend may fail in its own ways.  A fault has a kind and the values that were given with it, and
its message is made of those.

Main definitions:

* `ErrorKind` — the kinds of errors;
* `Fault`, `Fault.kind`, `Fault.message` — a fault, how it is classified and what it says;
* `Fault.delivered` — what becomes of a fault on its way out of a worker.

The signal that ends an iteration is no fault here: no worker hands it on, and no call that does not
block lets it pass.
-/

set_option autoImplicit false

namespace ClaimSeal

/-- The kinds of errors: the library's own, those of the things it works with, and the two that
stop the program.  A result that is awaited is kept by a worker's future or by the caller's task,
and each of these has its own errors for one that was called off or is not in the state for a
call. -/
inductive ErrorKind where
  | signer
  | signing
  | certificate
  | credential
  | unsupportedAlgorithm
  | general
  | lookup
  | system (number : Option Int)
  | overflow
  | runtime
  | type
  | value
  | encoding
  | certificateVersion
  | zeroDivision
  | futureCancelled
  | futureState
  | taskState
  | interrupt
  | cancelled
deriving DecidableEq, Repr

namespace ErrorKind

/-- Whether an error may be handled; the others stop the program. -/
def isOrdinary : ErrorKind → Bool
  | interrupt | cancelled => false
  | _ => true

/-- Whether an error stops everything at once, also what goes on beside it. -/
def stopsAll : ErrorKind → Bool
  | interrupt => true
  | _ => false

/-- Errors of the system, which are those of file operations. -/
def isSystem : ErrorKind → Bool
  | system _ => true
  | _ => false

/-- Errors about a value, also those of a text that cannot be encoded. -/
def isValue : ErrorKind → Bool
  | value | encoding => true
  | _ => false

end ErrorKind

/-- A fault of a backend: what sort of error it is, and the values given with it. -/
structure Fault where
  sort : ErrorKind
  args : List Datum

namespace Fault

/-- The number that a value stands for; truth values count as one and zero. -/
def number? : Datum → Option Int
  | .json (.int n) => some n
  | .json (.bool b) => some b.toNat
  | _ => none

/-- The number of a system error, which counts only if something else is given with it, but no more
than four values. -/
def systemNumber? : List Datum → Option Int
  | number :: _ :: rest => if rest.length ≤ 3 then number? number else none
  | _ => none

/-- Whether a system error says that an operation would have had to wait. -/
def isDelay (number : Option Int) : Bool := [11, 114, 115].any (some · = number)

/-- The kind of a fault; a system error is classified by its number. -/
def kind (f : Fault) : ErrorKind :=
  match f.sort with
  | .system _ => .system (systemNumber? f.args)
  | other => other

/-- The message of a fault of no special sort. -/
def plainMessage : List Datum → Text
  | [] => []
  | [d] => d.shown
  | ds => Datum.tuple ds

/-- A system error by number and text. -/
def numbered (number text : Datum) : Text :=
  txt "[Errno " ++ number.shown ++ txt "] " ++ text.shown

/-- Whether the third value given with a system error is the name of a file.  After a delay a number
says how much was done. -/
def namesFile (number : Datum) : Datum → Bool
  | .json .null => false
  | about => !(isDelay (number? number) && (number? about).isSome)

/-- The second file that a system error is about, which is the fifth value given with it. -/
def secondFile : List Datum → Text
  | [_, .json .null] => []
  | [_, second] => txt " -> " ++ second.literal
  | _ => []

/-- The message of a system error: its number, its text and, if there are any, the files that it is
about. -/
def systemMessage : List Datum → Text
  | [number, text] => numbered number text
  | number :: text :: about :: rest =>
      if 2 < rest.length then plainMessage (number :: text :: about :: rest)
      else if namesFile number about then
        numbered number text ++ txt ": " ++ about.literal ++ secondFile rest
      else numbered number text
  | ds => plainMessage ds

/-- The message of a fault.  A missing key is shown as a literal, and of what comes with an
unsupported algorithm only the first value is shown. -/
def message (f : Fault) : Text :=
  match f.sort, f.args with
  | .lookup, [d] => d.literal
  | .unsupportedAlgorithm, d :: _ => d.shown
  | .system _, ds => systemMessage ds
  | _, ds => plainMessage ds

/-! ### Faults in a worker -/

/-- The kind of the system error which says that something took too long. -/
def timeout : ErrorKind := .system (some 110)

/-- The values that a system error holds as given with it: the names of files are kept apart. -/
def heldArgs : List Datum → List Datum
  | number :: text :: about :: rest =>
      if 2 < rest.length || !namesFile number about then number :: text :: about :: rest
      else [number, text]
  | ds => ds

/-- What becomes of a fault on its way out of a worker.  The errors of futures turn into those of
tasks, and one that says that something took too long is made anew from the values that it holds. -/
def delivered (f : Fault) : Fault :=
  if f.kind = timeout then { f with args := heldArgs f.args }
  else if f.sort = .futureCancelled then { f with sort := .cancelled }
  else if f.sort = .futureState then { f with sort := .taskState }
  else f

end Fault

end ClaimSeal

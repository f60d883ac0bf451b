import ClaimSeal.Path

/-!
**A store of files.**

Files and directories stand at locations: lists of names from the root.  A relative path starts at
the working directory, and two dots lead to the directory above; nothing is above the root.  A name
takes at most 255 bytes and a path at most 4095.

It is assumed that there are no links: every location is where the path says, and a file is at one
location only.  Whoever works on the store may do everything with every file, and there is room for
all that is written; so an operation fails, if at all, because of the path, and then it changes
nothing.

Main definitions:

* `FileStore`, `FileStore.content?` — a store, and the content at a location;
* `FileStore.locate` — where a path leads;
* `FileStore.read`, `FileStore.write`, `FileStore.remove` — the operations, which fail with a
  `FileError`.

Main results:

* `FileStore.content?_put_self`, `FileStore.content?_put_of_ne` — what putting a file changes;
* `FileStore.content?_erase_self`, `FileStore.content?_erase_of_ne` — what erasing one changes.
-/

set_option autoImplicit false

namespace ClaimSeal

/-- Names from the root. -/
abbrev Location := List Bytes

/-- A store of files.  The directories down to the working directory are always there. -/
structure FileStore where
  here : Location
  dirs : List Location
  files : List (Location × Bytes)
deriving DecidableEq, Repr

/-- Why a file operation fails. -/
inductive Obstacle where
  | notFound
  | notDirectory
  | isDirectory
  | nameTooLong
deriving DecidableEq, Repr

/-- A failed file operation, with the path it was tried on. -/
structure FileError where
  obstacle : Obstacle
  path : Text
deriving DecidableEq, Repr

namespace Obstacle

/-- The number of the error. -/
def number : Obstacle → Int
  | notFound => 2
  | notDirectory => 20
  | isDirectory => 21
  | nameTooLong => 36

/-- The text of the error. -/
def text : Obstacle → Text
  | notFound => txt "No such file or directory"
  | notDirectory => txt "Not a directory"
  | isDirectory => txt "Is a directory"
  | nameTooLong => txt "File name too long"

end Obstacle

/-- What a failed file operation says. -/
def FileError.message (e : FileError) : Text :=
  txt "[Errno " ++ Text.ofInt e.obstacle.number ++ txt "] " ++ e.obstacle.text ++ txt ": "
    ++ e.path.quoted

/-- Why a path cannot be given to a file operation at all. -/
inductive PathFault where
  | notAPath (given : Datum)
  | zeroByte
  | unencodable (run : Text.Unencodable)

/-- A code point by its number, as an escape. -/
def escapedPoint (c : CodePoint) : Text := c.numberEscape

/-- What is wrong with a path. -/
def PathFault.message : PathFault → Text
  | notAPath d => txt "expected str, bytes or os.PathLike object, not " ++ d.typeName
  | zeroByte => txt "embedded null byte"
  | unencodable r =>
      if r.last = r.first then
        txt "'utf-8' codec can't encode character '" ++ escapedPoint r.point ++ txt "' in position "
          ++ Text.ofNat r.first ++ txt ": surrogates not allowed"
      else
        txt "'utf-8' codec can't encode characters in position " ++ Text.ofNat r.first ++ txt "-"
          ++ Text.ofNat r.last ++ txt ": surrogates not allowed"

/-- A path as the file operations take it: its text, how many slashes it starts with, and its names
as bytes. -/
structure SystemPath where
  text : Text
  absolute : Bool
  names : List Bytes
  size : Nat

/-- The form of a path that the file operations take. -/
def Path.toSystem (p : Path) : Except PathFault SystemPath := do
  match p.text.toFileName with
  | .error r => .error (.unencodable r)
  | .ok whole =>
      if whole.contains 0 then .error .zeroByte
      else
        let names := p.parts.map fun t =>
          match t.toFileName with
          | .ok b => b
          | .error _ => []
        .ok ⟨p.text, p.slashes ≠ 0, names, whole.length⟩

namespace FileStore

/-! ### Locations -/

/-- The content of the file at a location. -/
def content? (s : FileStore) (l : Location) : Option Bytes := s.files.lookup l

/-- Whether there is a directory at a location. -/
def isDir (s : FileStore) (l : Location) : Bool := s.dirs.contains l || l.isPrefixOf s.here

/-- What is found at a location. -/
inductive Spot where
  | dir (l : Location)
  | file (l : Location) (content : Bytes)
  | free (l : Location)
deriving DecidableEq, Repr

/-- The longest name. -/
def nameLimit : Nat := 255

/-- The longest path. -/
def pathLimit : Nat := 4095

/-- What a name in a directory means. -/
def child (s : FileStore) (origin : Location) (name : Bytes) : Except Obstacle Spot :=
  if name = ascii ".." then .ok (.dir origin.dropLast)
  else if nameLimit < name.length then .error .nameTooLong
  else
    let l := origin ++ [name]
    if s.isDir l then .ok (.dir l)
    else
      match s.content? l with
      | some content => .ok (.file l content)
      | none => .ok (.free l)

/-- Where names lead from a directory. -/
def walk (s : FileStore) (origin : Location) : List Bytes → Except Obstacle Spot
  | [] => .ok (.dir origin)
  | name :: rest =>
      match s.child origin name with
      | .error e => .error e
      | .ok (.dir l) => s.walk l rest
      | .ok (.file l content) => if rest = [] then .ok (.file l content) else .error .notDirectory
      | .ok (.free l) => if rest = [] then .ok (.free l) else .error .notFound

/-- Where a path leads. -/
def locate (s : FileStore) (p : SystemPath) : Except Obstacle Spot :=
  if pathLimit < p.size then .error .nameTooLong
  else s.walk (if p.absolute then [] else s.here) p.names

/-! ### Changes -/

/-- The entries with the content at a location replaced or added. -/
def putEntry (l : Location) (content : Bytes) :
    List (Location × Bytes) → List (Location × Bytes)
  | [] => [(l, content)]
  | (k, c) :: rest => if k = l then (l, content) :: rest else (k, c) :: putEntry l content rest

/-- The store with the content at a location replaced or added. -/
def put (s : FileStore) (l : Location) (content : Bytes) : FileStore :=
  { s with files := putEntry l content s.files }

/-- The store without the file at a location. -/
def erase (s : FileStore) (l : Location) : FileStore :=
  { s with files := s.files.filter fun entry => entry.1 ≠ l }

theorem lookup_putEntry_self (l : Location) (content : Bytes) (entries : List (Location × Bytes)) :
    (putEntry l content entries).lookup l = some content := by
  induction entries with
  | nil => simp [putEntry]
  | cons e rest ih =>
      obtain ⟨k, c⟩ := e
      rw [putEntry]
      split
      · simp
      · next h => rw [List.lookup_cons, beq_false_of_ne (Ne.symm h), ih]

theorem lookup_putEntry_of_ne {k l : Location} (h : k ≠ l) (content : Bytes)
    (entries : List (Location × Bytes)) :
    (putEntry l content entries).lookup k = entries.lookup k := by
  induction entries with
  | nil => simp [putEntry, h]
  | cons e rest ih =>
      obtain ⟨j, c⟩ := e
      rw [putEntry]
      split
      · next hj => rw [List.lookup_cons, List.lookup_cons, hj, beq_false_of_ne h]
      · rw [List.lookup_cons, List.lookup_cons, ih]

/-- What is put at a location is found there. -/
@[simp] theorem content?_put_self (s : FileStore) (l : Location) (content : Bytes) :
    (s.put l content).content? l = some content := lookup_putEntry_self l content s.files

/-- What is put at a location changes nothing elsewhere. -/
theorem content?_put_of_ne {k l : Location} (h : k ≠ l) (s : FileStore) (content : Bytes) :
    (s.put l content).content? k = s.content? k := lookup_putEntry_of_ne h content s.files

theorem lookup_filter_self (l : Location) (entries : List (Location × Bytes)) :
    (entries.filter fun entry => entry.1 ≠ l).lookup l = none := by
  induction entries with
  | nil => rfl
  | cons e rest ih =>
      rw [List.filter_cons]
      split
      · next h =>
          have hk : l ≠ e.1 := Ne.symm (of_decide_eq_true h)
          rw [List.lookup_cons, beq_false_of_ne hk, ih]
      · exact ih

theorem lookup_filter_of_ne {k l : Location} (h : k ≠ l) (entries : List (Location × Bytes)) :
    (entries.filter fun entry => entry.1 ≠ l).lookup k = entries.lookup k := by
  induction entries with
  | nil => rfl
  | cons e rest ih =>
      rw [List.filter_cons]
      split
      · rw [List.lookup_cons, List.lookup_cons, ih]
      · next he =>
          have hl : e.1 = l := by simpa using he
          rw [List.lookup_cons, hl, beq_false_of_ne h, ih]

/-- Nothing is left at a location that is erased. -/
@[simp] theorem content?_erase_self (s : FileStore) (l : Location) :
    (s.erase l).content? l = none := lookup_filter_self l s.files

/-- Erasing changes nothing elsewhere. -/
theorem content?_erase_of_ne {k l : Location} (h : k ≠ l) (s : FileStore) :
    (s.erase l).content? k = s.content? k := lookup_filter_of_ne h s.files

/-! ### Operations -/

/-- The content of the file at a path. -/
def read (s : FileStore) (p : SystemPath) : Except FileError Bytes :=
  match s.locate p with
  | .ok (.file _ content) => .ok content
  | .ok (.dir _) => .error ⟨.isDirectory, p.text⟩
  | .ok (.free _) => .error ⟨.notFound, p.text⟩
  | .error e => .error ⟨e, p.text⟩

/-- The store after writing a file, which may have been there or not. -/
def write (s : FileStore) (p : SystemPath) (content : Bytes) : Except FileError FileStore :=
  match s.locate p with
  | .ok (.file l _) | .ok (.free l) => .ok (s.put l content)
  | .ok (.dir _) => .error ⟨.isDirectory, p.text⟩
  | .error e => .error ⟨e, p.text⟩

/-- The store after removing a file; one that is not there may be removed. -/
def remove (s : FileStore) (p : SystemPath) : Except FileError FileStore :=
  match s.locate p with
  | .ok (.file l _) => .ok (s.erase l)
  | .ok (.free _) | .error .notFound => .ok s
  | .ok (.dir _) => .error ⟨.isDirectory, p.text⟩
  | .error e => .error ⟨e, p.text⟩

end FileStore

end ClaimSeal

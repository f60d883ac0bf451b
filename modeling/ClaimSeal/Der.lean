import ClaimSeal.Bytes

/-!
**Tagged data, read strictly.**

The distinguished encoding: every value has one form.  Lengths are definite and take as few bytes
as they can, so do numbers; a field with a default is absent when it has that value; the members of
a set come in the order of their encodings.  A reader consumes a value from the front of its input,
and what stands inside of a sequence has to be consumed completely.

Main definitions:

* `Der.Reader` — readers, and `Der.whole?`, which runs one over a complete input;
* `Der.record`, `Der.sequenceOf`, `Der.setOf`, `Der.perhaps`, `Der.explicit` — structure;
* `Der.integer`, `Der.natural`, `Der.octets`, `Der.bits`, `Der.objectId`, … — values;
* `Der.encode`, `Der.encodeInteger` — writing.
-/

set_option autoImplicit false

namespace ClaimSeal

namespace Der

/-- A reader consumes part of its input or fails. -/
abbrev Reader (α : Type) := StateT Bytes Option α

/-- Fails. -/
def fail {α : Type} : Reader α := fun _ => none

/-- Goes on only if a condition holds. -/
def require (condition : Bool) : Reader Unit := if condition then pure () else fail

/-- Runs a reader over a complete input. -/
def whole? {α : Type} (r : Reader α) (b : Bytes) : Option α :=
  match r.run b with
  | some (a, []) => some a
  | _ => none

/-- The value of a computation that may fail. -/
def given {α : Type} : Option α → Reader α
  | some a => pure a
  | none => fail

/-! ### Tags and lengths -/

/-- The next byte. -/
def byte : Reader UInt8
  | [] => none
  | b :: rest => some (b, rest)

/-- The next `n` bytes. -/
def take (n : Nat) : Reader Bytes := fun b =>
  if n ≤ b.length then some (b.take n, b.drop n) else none

/-- A number of at most `fuel` groups of seven bits, as short as possible, given what came
before. -/
def groups : (fuel n : Nat) → Reader Nat
  | 0, _ => fail
  | fuel + 1, n => do
      let b ← byte
      require !(n = 0 && b = 0x80)
      let n := n * 128 + b.toNat % 128
      if b < 0x80 then pure n else groups fuel n

/-- The tag of a value: its class and whether it is made up of others, both in the upper bits of a
byte, and its number. -/
structure Tag where
  form : Nat
  number : Nat
deriving DecidableEq, Repr

/-- The next tag. -/
def tag : Reader Tag := do
  let b ← byte
  let form := b.toNat / 32
  if b.toNat % 32 < 31 then pure ⟨form, b.toNat % 32⟩
  else do
    let number ← groups 5 0
    require (31 ≤ number && number < 4294967296)
    pure ⟨form, number⟩

/-- The next length: below 128 as one byte, else as the shortest number after its size. -/
def length : Reader Nat := do
  let b ← byte
  if b < 0x80 then pure b.toNat
  else do
    let size := b.toNat - 0x80
    require (0 < size && size ≤ 4)
    let n := Bytes.toNat (← take size)
    require (0x80 ≤ n && Bytes.count (size - 1) ≤ n)
    pure n

/-- The next value, whatever it is. -/
def any : Reader (Tag × Bytes) := do
  let t ← tag
  let contents ← take (← length)
  pure (t, contents)

/-- Universal values and what they are called by: those that stand for themselves. -/
def universal (number : Nat) : Tag := ⟨0, number⟩

/-- Universal values that are made up of others. -/
def compound (number : Nat) : Tag := ⟨1, number⟩

/-- Context-specific values that stand for themselves. -/
def context (number : Nat) : Tag := ⟨4, number⟩

/-- Context-specific values that are made up of others. -/
def contextCompound (number : Nat) : Tag := ⟨5, number⟩

/-- The contents of the next value, which has to have the given tag. -/
def contents (t : Tag) : Reader Bytes := do
  let (found, c) ← any
  require (found = t)
  pure c

/-- The bytes of the next value, whatever it is, if there is one. -/
def optionalValue : Reader Bytes := fun b =>
  if b.isEmpty then some ([], b)
  else
    match any.run b with
    | some (_, rest) => some (b.take (b.length - rest.length), rest)
    | none => none

/-! ### Structure -/

/-- A value whose contents are what a reader consumes completely. -/
def inside {α : Type} (t : Tag) (r : Reader α) : Reader α := do
  given (whole? r (← contents t))

/-- A sequence, read as a record. -/
def record {α : Type} (r : Reader α) : Reader α := inside (compound 16) r

/-- A value within an explicit context tag. -/
def explicit {α : Type} (number : Nat) (r : Reader α) : Reader α :=
  inside (contextCompound number) r

/-- The value of a reader if the next tag is the given one; else nothing is consumed. -/
def perhaps {α : Type} (t : Tag) (r : Reader α) : Reader (Option α) := fun b =>
  match tag.run b with
  | some (found, _) => if found = t then (some <$> r).run b else some (none, b)
  | none => if b.isEmpty then some (none, b) else none

/-- As many values as there are; `fuel` bounds their number. -/
def many {α : Type} (r : Reader α) : (fuel : Nat) → Reader (List α)
  | 0 => pure []
  | fuel + 1 => fun b =>
      if b.isEmpty then some ([], b)
      else (do
        let a ← r
        let others ← many r fuel
        pure (a :: others) : Reader (List α)).run b

/-- As many values as there are. -/
def all {α : Type} (r : Reader α) : Reader (List α) := fun b => (many r b.length).run b

/-- A sequence of values of one kind. -/
def sequenceOf {α : Type} (r : Reader α) : Reader (List α) := record (all r)

/-- The bytes that a reader consumes, with its value. -/
def measured {α : Type} (r : Reader α) : Reader (Bytes × α) := fun b =>
  match r.run b with
  | some (a, rest) => some ((b.take (b.length - rest.length), a), rest)
  | none => none

/-- Whether byte strings come in order. -/
def ordered : List Bytes → Bool
  | a :: b :: rest => !(b < a) && ordered (b :: rest)
  | _ => true

/-- Values of one kind in the order of their encodings. -/
def sorted {α : Type} (r : Reader α) : Reader (List α) := do
  let members ← all (measured r)
  require (ordered (members.map Prod.fst))
  pure (members.map Prod.snd)

/-- A set of values of one kind. -/
def setOf {α : Type} (r : Reader α) : Reader (List α) := inside (compound 17) (sorted r)

/-! ### Values -/

/-- The contents of a number are not empty and have no byte to spare. -/
def isShortest : Bytes → Bool
  | [] => false
  | [_] => true
  | a :: b :: _ => !((a = 0 && b < 0x80) || (a = 0xFF && 0x80 ≤ b))

/-- An integer. -/
def integer : Reader Int := do
  let c ← contents (universal 2)
  require (isShortest c)
  pure (Bytes.toInt c)

/-- A natural number. -/
def natural : Reader Nat := do
  let n ← integer
  require (0 ≤ n)
  pure n.toNat

/-- A natural number below a bound. -/
def below (bound : Nat) : Reader Nat := do
  let n ← natural
  require (n < bound)
  pure n

/-- A natural number below 256. -/
def small : Reader Nat := below 256

/-- A natural number of at most 64 bits. -/
def large : Reader Nat := below 18446744073709551616

/-- An octet string. -/
def octets : Reader Bytes := contents (universal 4)

/-- The bytes of a bit string; the bits that its last byte has to spare are zero. -/
def bitsOf (c : Bytes) : Option Bytes :=
  match c with
  | [] => none
  | spare :: data =>
      match data.getLast? with
      | none => if spare = 0 then some [] else none
      | some last =>
          if spare < 8 ∧ last.toNat % Nat.pow 2 spare.toNat = 0 then some data else none

/-- A bit string. -/
def bits : Reader Bytes := do given (bitsOf (← contents (universal 3)))

/-- A bit string with a context tag in place of its own. -/
def implicitBits (number : Nat) : Reader Bytes := do given (bitsOf (← contents (context number)))

/-- A truth value. -/
def boolean : Reader Bool := do
  match ← contents (universal 1) with
  | [0] => pure false
  | [0xFF] => pure true
  | _ => fail

/-- Nothing. -/
def null : Reader Unit := do
  require (← contents (universal 5)).isEmpty

/-- The numbers of an object identifier, the first two as one. -/
def arcs : (fuel : Nat) → Reader (List Nat)
  | 0 => pure []
  | fuel + 1 => fun b =>
      if b.isEmpty then some ([], b)
      else (do
        let n ← groups 19 0
        require (n < Nat.pow 2 128)
        let others ← arcs fuel
        pure (n :: others) : Reader (List Nat)).run b

/-- An object identifier, as its numbers, the first two as one. -/
def objectId : Reader (List Nat) := do
  let c ← contents (universal 6)
  require (0 < c.length && c.length ≤ 63)
  given (whole? (arcs c.length) c)

/-! ### Writing -/

/-- The bytes of a length. -/
def encodeLength (n : Nat) : Bytes :=
  if n < 0x80 then [UInt8.ofNat n]
  else UInt8.ofNat (0x80 + Bytes.widthOf n) :: Bytes.ofNat (Bytes.widthOf n) n

/-- A value with the given leading byte. -/
def encode (leading : UInt8) (contents : Bytes) : Bytes :=
  leading :: encodeLength contents.length ++ contents

/-- The contents of an integer: two's complement in as few bytes as possible. -/
def integerContents : Int → Bytes
  | .ofNat n => Bytes.ofNat (Bytes.widthOf (2 * n) |>.max 1) n
  | .negSucc n =>
      let width := Bytes.widthOf (2 * n) |>.max 1
      Bytes.ofNat width (Bytes.count width - (n + 1))

/-- An integer. -/
def encodeInteger (i : Int) : Bytes := encode 0x02 (integerContents i)

/-- A sequence of encoded values. -/
def encodeSequence (parts : List Bytes) : Bytes := encode 0x30 parts.flatten

end Der

end ClaimSeal

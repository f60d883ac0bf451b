import ClaimSeal.Bytes

/-!
**Tagged data, read leniently.**

An element is a tag, a length and contents.  A length takes any of its forms, also the open one, in
which the contents run up to an end marker; open elements nest no deeper than eleven levels.  What
follows an element is up to the reader of the whole.

A record is read by its fields: a field that may be absent is present when the next element has its
tag, any other field takes the next element whatever its tag is, and elements left over are ignored.
The type of an element is checked only when its value is asked for.

Main definitions:

* `Ber.Element`, `Ber.first?`, `Ber.elements?` — elements;
* `Ber.Field`, `Ber.assign?` — the fields of a record;
* `Ber.Element.integer?` and its siblings — values by type.
-/

set_option autoImplicit false

namespace ClaimSeal

namespace Ber

/-! ### Elements -/

/-- The tag of an element: its class, whether its contents are elements, and its number. -/
structure Tag where
  cls : Nat
  constructed : Bool
  number : Nat
deriving DecidableEq, Repr

/-- An element; `isOpen` tells that its contents ran up to an end marker. -/
structure Element where
  tag : Tag
  isOpen : Bool
  contents : Bytes
deriving DecidableEq, Repr

/-- A tag number of any size, seven bits a byte, given what came before. -/
def longNumber? (n : Nat) : Bytes → Option (Nat × Bytes)
  | [] => none
  | b :: rest =>
      if n = 0 ∧ b = 0x80 then none
      else
        let n := n * 128 + b.toNat % 128
        if b < 0x80 then some (n, rest) else longNumber? n rest

/-- The tag at the front. -/
def tag? : Bytes → Option (Tag × Bytes)
  | [] => none
  | b :: rest =>
      let cls := b.toNat / 64
      let constructed := b.toNat / 32 % 2 = 1
      if b.toNat % 32 < 31 then some (⟨cls, constructed, b.toNat % 32⟩, rest)
      else do
        let (number, rest) ← longNumber? 0 rest
        if number < 31 then none else some (⟨cls, constructed, number⟩, rest)

/-- The length at the front; the open form has none. -/
def length? : Bytes → Option (Option Nat × Bytes)
  | [] => none
  | b :: rest =>
      if b < 0x80 then some (some b.toNat, rest)
      else if b = 0x80 then some (none, rest)
      else
        let size := b.toNat - 0x80
        if size ≤ rest.length then some (some (Bytes.toNat (rest.take size)), rest.drop size)
        else none

/-- What follows the end marker, after any number of elements, each passed by `skip`. -/
def afterEnd? (skip : Bytes → Option Bytes) : (fuel : Nat) → Bytes → Option Bytes
  | 0, _ => none
  | fuel + 1, b =>
      match b with
      | 0 :: 0 :: rest => some rest
      | _ => (skip b).bind (afterEnd? skip fuel)

/-- The first element and what follows it; `depth` bounds the nesting of open elements. -/
def firstWithin? : (depth : Nat) → Bytes → Option (Element × Bytes)
  | 0, _ => none
  | depth + 1, b => do
      let (tag, b) ← tag? b
      let (length, b) ← length? b
      match length with
      | some n => if n ≤ b.length then some (⟨tag, false, b.take n⟩, b.drop n) else none
      | none =>
          if tag.constructed then do
            let rest ← afterEnd? (fun x => (firstWithin? depth x).map Prod.snd) (b.length + 1) b
            some (⟨tag, true, b.take (b.length - rest.length - 2)⟩, rest)
          else none

/-- The first element and what follows it. -/
def first? (b : Bytes) : Option (Element × Bytes) := firstWithin? 11 b

/-- The elements of a byte string; `fuel` bounds their number. -/
def elementsWithin? : (fuel : Nat) → Bytes → Option (List Element)
  | _, [] => some []
  | 0, _ => none
  | fuel + 1, b => do
      let (e, rest) ← first? b
      let others ← elementsWithin? fuel rest
      some (e :: others)

/-- The elements that make up a byte string. -/
def elements? (b : Bytes) : Option (List Element) := elementsWithin? b.length b

/-! ### Records -/

/-- A field of a record: one that is always there, or one that is recognised by its tag. -/
inductive Field where
  | required
  | optional (cls number : Nat)
deriving DecidableEq, Repr

/-- Deals the elements out to the fields; no field may stay empty that is always there. -/
def assign? : List Field → List Element → Option (List (Option Element))
  | [], _ => some []
  | .required :: _, [] => none
  | .required :: fields, e :: es => (assign? fields es).map (some e :: ·)
  | .optional _ _ :: fields, [] => (assign? fields []).map (none :: ·)
  | .optional cls number :: fields, e :: es =>
      if e.tag.cls = cls ∧ e.tag.number = number then (assign? fields es).map (some e :: ·)
      else (assign? fields (e :: es)).map (none :: ·)

namespace Element

/-! ### Values -/

/-- The elements of a sequence. -/
def sequence? (e : Element) : Option (List Element) :=
  if e.tag = ⟨0, true, 16⟩ then elements? e.contents else none

/-- The fields of a record. -/
def record? (fields : List Field) (e : Element) : Option (List (Option Element)) :=
  e.sequence?.bind (assign? fields)

/-- The value of an integer. -/
def integer? (e : Element) : Option Int :=
  if e.tag = ⟨0, false, 2⟩ then some (Bytes.toInt e.contents) else none

/-- The value of an enumerated element. -/
def enumerated? (e : Element) : Option Int :=
  if e.tag = ⟨0, false, 10⟩ then some (Bytes.toInt e.contents) else none

/-- The element within an explicit context tag; what follows it is ignored. -/
def within? (number : Nat) (e : Element) : Option Element :=
  if e.tag = ⟨2, true, number⟩ then (first? e.contents).map Prod.fst else none

/-- The bytes of an octet string; one of the open form is made up of others. -/
def octetsWithin? : (fuel : Nat) → Element → Option Bytes
  | 0, _ => none
  | fuel + 1, e =>
      if e.tag = ⟨0, false, 4⟩ then some e.contents
      else if e.tag = ⟨0, true, 4⟩ ∧ e.isOpen then do
        let parts ← elements? e.contents
        (parts.mapM (octetsWithin? fuel)).map List.flatten
      else none

/-- The bytes of an octet string. -/
def octets? (e : Element) : Option Bytes := octetsWithin? (e.contents.length + 1) e

/-- The numbers that make up an object identifier, seven bits a byte; a last one without its end is
dropped. -/
def arcsFrom (n : Nat) : Bytes → List Nat
  | [] => []
  | b :: rest =>
      let n := n * 128 + b.toNat % 128
      if b < 0x80 then n :: arcsFrom 0 rest else arcsFrom n rest

/-- The numbers that make up an object identifier, the first two as one. -/
def arcs? (e : Element) : Option (List Nat) :=
  if e.tag = ⟨0, false, 6⟩ then some (arcsFrom 0 e.contents) else none

end Element

end Ber

end ClaimSeal

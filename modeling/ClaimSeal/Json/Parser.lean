import ClaimSeal.Json.Value

/-!
**Reading JSON.**

A number without fraction and exponent is whole.  A surrogate pair in a string literal is one code
point, and a surrogate without its partner stays a code point.  Of two members with one name the
later value stands at the place of the earlier one.  The names `NaN`, `Infinity` and `-Infinity`
are read as numbers.

Main definitions:

* `Json.parse?` — the value of a text;
* `Json.value?` — the value at the front of a text, and what follows it.
-/

set_option autoImplicit false

namespace ClaimSeal

namespace Json

/-- White space between tokens. -/
def isBlank (c : CodePoint) : Bool :=
  c = cp ' ' || c = cp '\t' || c = cp '\n' || c = cp '\r'

/-- What follows the white space at the front. -/
def skipBlank (t : Text) : Text := t.dropWhile isBlank

/-- What follows a prefix. -/
def after? : (lead t : Text) → Option Text
  | [], t => some t
  | _ :: _, [] => none
  | p :: lead, c :: t => if p = c then after? lead t else none

/-! ### Strings -/

/-- The value of a hexadecimal digit. -/
def hexDigit? (c : CodePoint) : Option Nat :=
  if 48 ≤ c.val ∧ c.val ≤ 57 then some (c.val - 48)
  else if 97 ≤ c.val ∧ c.val ≤ 102 then some (c.val - 87)
  else if 65 ≤ c.val ∧ c.val ≤ 70 then some (c.val - 55)
  else none

/-- The number that four hexadecimal digits stand for. -/
def unit? (a b c d : CodePoint) : Option Nat := do
  let a ← hexDigit? a
  let b ← hexDigit? b
  let c ← hexDigit? c
  let d ← hexDigit? d
  return a * 4096 + b * 256 + c * 16 + d

/-- The code point of a one-letter escape. -/
def letterEscape? (c : CodePoint) : Option CodePoint :=
  if c = cp '"' ∨ c = cp '\\' ∨ c = cp '/' then some c
  else if c = cp 'b' then some (cp '\x08')
  else if c = cp 'f' then some (cp '\x0c')
  else if c = cp 'n' then some (cp '\n')
  else if c = cp 'r' then some (cp '\r')
  else if c = cp 't' then some (cp '\t')
  else none

/-- The unit escape at the front of a text, and what follows it. -/
def unitEscape? : Text → Option (Nat × Text)
  | s :: u :: a :: b :: c :: d :: rest =>
      if s = cp '\\' ∧ u = cp 'u' then (unit? a b c d).map (·, rest) else none
  | _ => none

/-- The piece of a string literal at the front of a text, and what follows it. -/
def piece? : Text → Option (CodePoint × Text)
  | [] => none
  | c :: rest =>
      if c = cp '\\' then
        match rest with
        | [] => none
        | l :: tail =>
            if l = cp 'u' then do
              let (high, tail) ← unitEscape? (c :: rest)
              match unitEscape? tail with
              | some (low, after) =>
                  if 0xD800 ≤ high ∧ high ≤ 0xDBFF ∧ 0xDC00 ≤ low ∧ low ≤ 0xDFFF then
                    let n := 0x10000 + (high - 0xD800) * 0x400 + (low - 0xDC00)
                    some (CodePoint.ofNat n, after)
                  else some (CodePoint.ofNat high, tail)
              | none => some (CodePoint.ofNat high, tail)
            else (letterEscape? l).map (·, tail)
      else if c.val < 32 then none
      else some (c, rest)

/-- The rest of a string literal after its opening mark; `acc` holds what was read, backwards. -/
def stringOnto : (fuel : Nat) → (acc : Text) → Text → Option (Text × Text)
  | 0, _, _ => none
  | fuel + 1, acc, t =>
      match t with
      | [] => none
      | c :: rest =>
          if c = cp '"' then some (acc.reverse, rest)
          else match piece? t with
            | some (p, tail) => stringOnto fuel (p :: acc) tail
            | none => none

/-- A string literal at the front of a text, after its opening mark. -/
def string? (t : Text) : Option (Text × Text) := stringOnto t.length [] t

/-! ### Numbers -/

/-- The number `digits * 10 ^ exponent` rounded to floating point.  Numbers far outside the range
need no exact powers. -/
def decimalFloat (digits : Nat) (exponent : Int) : Float :=
  let size : Int := (Text.ofNat digits).length + exponent
  if digits = 0 ∨ size < -400 then 0.0
  else if 400 < size then 1.0 / 0.0
  else match exponent with
    | .ofNat e => Float.ofScientific digits false e
    | .negSucc e => Float.ofScientific digits true (e + 1)

/-- The digits at the front of a text, and what follows them. -/
def digitRun (t : Text) : Text × Text := t.span CodePoint.isAsciiDigit

/-- The fraction at the front of a text; no fraction has no digits. -/
def fractionPart (t : Text) : Text × Text :=
  match t with
  | c :: rest =>
      let (ds, tail) := digitRun rest
      if c = cp '.' ∧ ds ≠ [] then (ds, tail) else ([], t)
  | [] => ([], t)

/-- The exponent at the front of a text, if there is one. -/
def exponentPart (t : Text) : Option Int × Text :=
  match t with
  | e :: rest =>
      if e = cp 'e' ∨ e = cp 'E' then
        let (negative, tail) := match rest with
          | s :: tail => if s = cp '-' then (true, tail) else if s = cp '+' then (false, tail)
              else (false, rest)
          | [] => (false, rest)
        let (ds, after) := digitRun tail
        if ds = [] then (none, t)
        else (some (if negative then -(Text.toNat ds : Int) else Text.toNat ds), after)
      else (none, t)
  | [] => (none, t)

/-- The whole part at the front of a text: one zero, or digits that start with no zero. -/
def wholePart? (t : Text) : Option (Text × Text) :=
  match t with
  | c :: rest =>
      if c = cp '0' then some ([c], rest)
      else if c.isAsciiDigit then some (digitRun t) else none
  | [] => none

/-- A number without sign at the front of a text. -/
def unsigned? (negative : Bool) (t : Text) : Option (Json × Text) := do
  let (whole, rest) ← wholePart? t
  let (fraction, rest) := fractionPart rest
  let (exponent, rest) := exponentPart rest
  if fraction = [] ∧ exponent = none then
    let n := Text.toNat whole
    return (.int (if negative then -(n : Int) else n), rest)
  else
    let x := decimalFloat (Text.toNat (whole ++ fraction)) (exponent.getD 0 - fraction.length)
    return (.float (if negative then -x else x), rest)

/-- A number at the front of a text. -/
def number? (t : Text) : Option (Json × Text) :=
  match t with
  | c :: rest =>
      if c = cp '-' then
        match after? (txt "Infinity") rest with
        | some tail => some (.float (-1.0 / 0.0), tail)
        | none => unsigned? true rest
      else unsigned? false t
  | [] => none

/-! ### Values -/

/-- Adds a member, at the place of an earlier one of its name if there is one. -/
def putMember (name : Text) (value : Json) (members : List (Text × Json)) : List (Text × Json) :=
  if members.any (·.1 == name) then members.map fun m => if m.1 == name then (name, value) else m
  else members ++ [(name, value)]

/-- A literal name or a number at the front of a text. -/
def literal? (t : Text) : Option (Json × Text) :=
  match after? (txt "null") t with
  | some rest => some (.null, rest)
  | none => match after? (txt "true") t with
    | some rest => some (.bool true, rest)
    | none => match after? (txt "false") t with
      | some rest => some (.bool false, rest)
      | none => match after? (txt "NaN") t with
        | some rest => some (.float (0.0 / 0.0), rest)
        | none => match after? (txt "Infinity") t with
          | some rest => some (.float (1.0 / 0.0), rest)
          | none => number? t

mutual

/-- The value at the front of a text that starts with no white space. -/
def value? : (fuel : Nat) → Text → Option (Json × Text)
  | 0, _ => none
  | fuel + 1, t =>
      match t with
      | [] => none
      | c :: rest =>
          if c = cp '"' then (string? rest).map fun (s, tail) => (.str s, tail)
          else if c = cp '[' then
            match skipBlank rest with
            | [] => none
            | d :: tail =>
                if d = cp ']' then some (.arr [], tail)
                else (items? fuel (d :: tail)).map fun (xs, after) => (.arr xs, after)
          else if c = cp '\x7b' then
            match skipBlank rest with
            | [] => none
            | d :: tail =>
                if d = cp '\x7d' then some (.obj [], tail)
                else (members? fuel [] (d :: tail)).map fun (ms, after) => (.obj ms, after)
          else literal? t

/-- The items of an array from the first one on, with the closing bracket. -/
def items? : (fuel : Nat) → Text → Option (List Json × Text)
  | 0, _ => none
  | fuel + 1, t => do
      let (item, rest) ← value? fuel t
      match skipBlank rest with
      | [] => none
      | c :: tail =>
          if c = cp ']' then return ([item], tail)
          else if c = cp ',' then
            let (others, after) ← items? fuel (skipBlank tail)
            return (item :: others, after)
          else none

/-- The members of an object from the next one on, after those in `acc`, with the closing
bracket. -/
def members? : (fuel : Nat) → (acc : List (Text × Json)) → Text →
    Option (List (Text × Json) × Text)
  | 0, _, _ => none
  | fuel + 1, acc, t =>
      match t with
      | [] => none
      | q :: rest =>
          if q ≠ cp '"' then none
          else do
            let (name, rest) ← string? rest
            let rest ← after? (txt ":") (skipBlank rest)
            let (value, rest) ← value? fuel (skipBlank rest)
            let acc := putMember name value acc
            match skipBlank rest with
            | [] => none
            | c :: tail =>
                if c = cp '\x7d' then return (acc, tail)
                else if c = cp ',' then members? fuel acc (skipBlank tail)
                else none

end

/-- The value of a text, with white space around it. -/
def parse? (t : Text) : Option Json :=
  match value? (t.length + 1) (skipBlank t) with
  | some (v, rest) => if skipBlank rest = [] then some v else none
  | none => none

end Json

end ClaimSeal

import ClaimSeal.Bytes

/-!
**Texts.**

A text is a list of Unicode code points.  Surrogates are code points here: they stand for the
bytes of a file name that are not valid UTF-8, and they occur alone in JSON strings.

Main definitions:

* `CodePoint`, `Text` — code points and texts;
* `txt` — the text of a string;
* `Text.ofNat`, `Text.ofInt`, `Text.hexOfInt` — numbers as digits;
* `DigitLimit` — which numbers are written at all;
* `Text.joinWith`, `Text.splitAt` — joining and cutting at a separator.

Main results:

* `Text.splitAt_joinWith` — joined parts are cut apart again.
-/

set_option autoImplicit false

namespace ClaimSeal

/-- A Unicode code point, surrogates included. -/
abbrev CodePoint := Fin 0x110000

/-- A text: a list of code points. -/
abbrev Text := List CodePoint

/-- The code point of a number, taken modulo the number of code points. -/
def CodePoint.ofNat (n : Nat) : CodePoint := ⟨n % 0x110000, Nat.mod_lt n (Nat.zero_lt_succ _)⟩

/-- The code point of a character. -/
def cp (c : Char) : CodePoint := CodePoint.ofNat c.toNat

/-- The text of a string. -/
def txt (s : String) : Text := s.toList.map cp

namespace CodePoint

/-- The halves of surrogate pairs. -/
def isSurrogate (c : CodePoint) : Bool := 0xD800 ≤ c.val && c.val ≤ 0xDFFF

/-- A letter from A to Z in either case. -/
def isAsciiLetter (c : CodePoint) : Bool :=
  (65 ≤ c.val && c.val ≤ 90) || (97 ≤ c.val && c.val ≤ 122)

/-- A digit from 0 to 9. -/
def isAsciiDigit (c : CodePoint) : Bool := 48 ≤ c.val && c.val ≤ 57

theorem ofNat_val (c : CodePoint) : ofNat c.val = c :=
  Fin.ext (Nat.mod_eq_of_lt c.isLt)

theorem val_ofNat {n : Nat} (h : n < 0x110000) : (ofNat n).val = n :=
  Nat.mod_eq_of_lt h

theorem isSurrogate_iff (c : CodePoint) :
    c.isSurrogate = true ↔ 0xD800 ≤ c.val ∧ c.val ≤ 0xDFFF := by
  simp [isSurrogate]

end CodePoint

namespace Text

/-- The text of a string of ASCII bytes. -/
def ofAscii (b : Bytes) : Text := b.map fun x => CodePoint.ofNat x.toNat

/-- The ASCII bytes of a text, if it holds nothing else. -/
def toAscii? (t : Text) : Option Bytes :=
  if t.all (fun c => c.val < 128) then some (t.map fun c => UInt8.ofNat c.val) else none

/-! ### Numbers -/

/-- The code point of a digit below sixteen, in lower case. -/
def digit (d : Nat) : CodePoint :=
  CodePoint.ofNat (if d < 10 then d + 48 else d + 87)

/-- The digits of `n` to a base of at least two, put in front of `acc`; `fuel` bounds their
number. -/
def digitsOnto (base : Nat) : (fuel n : Nat) → (acc : Text) → Text
  | 0, _, acc => acc
  | fuel + 1, n, acc =>
      if n < base then digit n :: acc
      else digitsOnto base fuel (n / base) (digit (n % base) :: acc)

/-- The digits of `n` to a base of at least two. -/
def digits (base n : Nat) : Text := digitsOnto base (Nat.log2 n + 1) n []

/-- A natural number in decimal. -/
def ofNat (n : Nat) : Text := digits 10 n

/-- An integer to a base, with a minus sign if it is negative. -/
def ofIntIn (base : Nat) : Int → Text
  | .ofNat n => digits base n
  | .negSucc n => cp '-' :: digits base (n + 1)

/-- An integer in decimal. -/
def ofInt (i : Int) : Text := ofIntIn 10 i

/-- An integer in lower-case hexadecimal, a negative one as a minus sign and its magnitude. -/
def hexOfInt (i : Int) : Text := ofIntIn 16 i

/-- Exactly `width` lower-case hexadecimal digits of `n`. -/
def hexPadded : (width n : Nat) → Text
  | 0, _ => []
  | width + 1, n => hexPadded width (n / 16) ++ [digit (n % 16)]

/-- The value of a text of decimal digits. -/
def toNat (t : Text) : Nat := t.foldl (fun n c => n * 10 + (c.val - 48)) 0

end Text

/-- How many digits a number has at most that is written in decimal; zero is no limit.  It is a
setting of what runs the program.  Counts of bytes that are held somewhere are far from any limit,
so it matters for a number that somebody else tells, such as a reservation. -/
abbrev DigitLimit := Nat

namespace DigitLimit

/-- The limit to begin with. -/
def usual : DigitLimit := 4300

/-- Whether a number has no more digits than a limit says; a sign is none. -/
def admits (limit : DigitLimit) (i : Int) : Bool :=
  limit = 0 || i.natAbs < Nat.pow 10 limit

end DigitLimit

namespace Text

/-! ### Joining and cutting -/

/-- The texts one after the other, with `sep` between them. -/
def joinWith (sep : Text) : List Text → Text
  | [] => []
  | [t] => t
  | t :: rest => t ++ sep ++ joinWith sep rest

/-- The parts of a text between the occurrences of a code point. -/
def splitAt (sep : CodePoint) (t : Text) : List Text :=
  t.foldr (fun c parts => if c = sep then [] :: parts
    else match parts with
      | [] => [[c]]
      | part :: rest => (c :: part) :: rest) [[]]

/-- What stands before the first occurrence of a code point and what stands after it. -/
def cutAt? (sep : CodePoint) (t : Text) : Option (Text × Text) :=
  match t.dropWhile (· ≠ sep) with
  | [] => none
  | _ :: rest => some (t.takeWhile (· ≠ sep), rest)

/-! ### Cutting what was joined -/

theorem splitAt_nil (sep : CodePoint) : splitAt sep [] = [[]] := rfl

theorem splitAt_cons_self (sep : CodePoint) (t : Text) :
    splitAt sep (sep :: t) = [] :: splitAt sep t := by
  rw [splitAt, List.foldr_cons, if_pos rfl, splitAt]

/-- Cutting always gives a part. -/
theorem splitAt_ne_nil (sep : CodePoint) (t : Text) : splitAt sep t ≠ [] := by
  induction t with
  | nil => exact List.cons_ne_nil _ _
  | cons c t ih =>
      rw [splitAt, List.foldr_cons]
      split
      · exact List.cons_ne_nil _ _
      · split <;> exact List.cons_ne_nil _ _

/-- A part that lacks the separator is not cut. -/
theorem splitAt_append {sep : CodePoint} {part : Text} (h : sep ∉ part) (t : Text) :
    splitAt sep (part ++ sep :: t) = part :: splitAt sep t := by
  induction part with
  | nil => exact splitAt_cons_self sep t
  | cons c part ih =>
      have hc : c ≠ sep := fun e => h (by rw [e]; exact List.mem_cons_self)
      have hp := ih fun m => h (List.mem_cons_of_mem c m)
      rw [splitAt] at hp
      rw [List.cons_append, splitAt, List.foldr_cons, if_neg hc, hp]

theorem splitAt_eq_singleton {sep : CodePoint} {part : Text} (h : sep ∉ part) :
    splitAt sep part = [part] := by
  induction part with
  | nil => rfl
  | cons c part ih =>
      have hc : c ≠ sep := fun e => h (by rw [e]; exact List.mem_cons_self)
      have hp := ih fun m => h (List.mem_cons_of_mem c m)
      rw [splitAt] at hp
      rw [splitAt, List.foldr_cons, if_neg hc, hp]

/-- Joined parts that lack the separator are cut apart again. -/
theorem splitAt_joinWith {sep : CodePoint} {parts : List Text} (hne : parts ≠ [])
    (h : ∀ part ∈ parts, sep ∉ part) : splitAt sep (joinWith [sep] parts) = parts := by
  induction parts with
  | nil => exact absurd rfl hne
  | cons part rest ih =>
      have hp : sep ∉ part := h part List.mem_cons_self
      cases rest with
      | nil => exact splitAt_eq_singleton hp
      | cons next rest =>
          have hr := ih (List.cons_ne_nil _ _) fun q hq => h q (List.mem_cons_of_mem part hq)
          rw [joinWith, List.append_assoc, List.singleton_append, splitAt_append hp, hr]
          exact List.cons_ne_nil _ _

/-- No part of a text that is cut holds the separator. -/
theorem not_mem_of_mem_splitAt {sep : CodePoint} {part t : Text} (h : part ∈ splitAt sep t) :
    sep ∉ part := by
  induction t generalizing part with
  | nil =>
      rw [List.mem_singleton.1 h]
      exact List.not_mem_nil
  | cons c t ih =>
      rw [splitAt, List.foldr_cons] at h
      split at h
      · rcases List.mem_cons.1 h with h | h
        · rw [h]
          exact List.not_mem_nil
        · exact ih h
      · next hc =>
          split at h
          · rw [List.mem_singleton.1 h, List.mem_singleton]
            exact Ne.symm hc
          · next first rest hs =>
              rcases List.mem_cons.1 h with h | h
              · rw [h]
                intro hm
                rcases List.mem_cons.1 hm with hm | hm
                · exact hc hm.symm
                · exact ih (by rw [splitAt, hs]; exact List.mem_cons_self) hm
              · exact ih (by rw [splitAt, hs]; exact List.mem_cons_of_mem _ h)

end Text

end ClaimSeal

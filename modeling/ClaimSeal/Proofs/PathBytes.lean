import ClaimSeal.Proofs.Spelling
import Mathlib.Data.List.Forall2

/-!
**Paths as bytes.**

To read a path a text is cut at the slashes, and some of its parts are dropped.  The slash and the
dot are one byte each and occur in no other form, so the bytes of the text could be cut just as
well.  What the file operations get for a path, apart from the text that is shown in failures, is a
matter of these bytes alone: of how many slashes they start with and of the names between them.

Main definitions:

* `Path.slashesIn`, `Path.namesIn`, `Path.bytesFrom` — a path that is read from bytes;
* `Path.systemFrom` — what the file operations get for it.

Main results:

* `Text.Encodes.splitAt` — a text is cut where its bytes are;
* `Text.Encodes.toSystem_parse` — **the file operations get what the bytes say**.
-/

set_option autoImplicit false

namespace ClaimSeal

/-! ### Cutting -/

theorem Bytes.splitOn_cons (sep x : UInt8) (b : Bytes) :
    (x :: b).splitOn sep =
      if x = sep then [] :: b.splitOn sep else (b.splitOn sep).modifyHead (x :: ·) := by
  rw [List.splitOn, List.splitOnP_cons_eq_if_modifyHead]
  simp only [beq_iff_eq]
  rfl

/-- Bytes without the separator stay together. -/
theorem Bytes.splitOn_append {sep : UInt8} {front : Bytes} (h : sep ∉ front) (b : Bytes) :
    (front ++ b).splitOn sep = (b.splitOn sep).modifyHead (front ++ ·) := by
  induction front with
  | nil =>
      rw [List.nil_append]
      cases b.splitOn sep <;> rfl
  | cons x front ih =>
      rw [List.mem_cons, not_or] at h
      rw [List.cons_append, splitOn_cons, if_neg (Ne.symm h.1), ih h.2, List.modifyHead_modifyHead]
      rfl

theorem Text.splitAt_cons_of_ne {sep c : CodePoint} (h : c ≠ sep) (t : Text) :
    splitAt sep (c :: t) = (splitAt sep t).modifyHead (c :: ·) := by
  have hne := splitAt_ne_nil sep t
  rw [splitAt, List.foldr_cons, if_neg h, ← splitAt]
  cases hs : splitAt sep t with
  | nil => exact absurd hs hne
  | cons part rest => rfl

namespace Path

/-- The byte of the slash. -/
def slashByte : UInt8 := 47

/-- The byte of the dot. -/
def dotByte : UInt8 := 46

/-- How many slashes the path starts with that is read from bytes. -/
def slashesIn (b : Bytes) : Nat := leading (b.takeWhile (· = slashByte)).length

/-- The names in the path that is read from bytes. -/
def namesIn (b : Bytes) : List Bytes :=
  (b.splitOn slashByte).filter fun name => !name.isEmpty && name ≠ [dotByte]

/-- The bytes of the path that is read from bytes. -/
def bytesFrom (b : Bytes) : Bytes :=
  if slashesIn b = 0 ∧ namesIn b = [] then [dotByte]
  else List.replicate (slashesIn b) slashByte ++ [slashByte].intercalate (namesIn b)

/-- What the file operations get for the path that is read from bytes, if it is shown as a given
text. -/
def systemFrom (b : Bytes) (text : Text) : Except PathFault SystemPath :=
  if (bytesFrom b).contains 0 then .error .zeroByte
  else .ok ⟨text, slashesIn b ≠ 0, namesIn b, (bytesFrom b).length⟩

end Path

namespace Text

open ClaimSeal.Path

variable {c : CodePoint} {t : Text} {b : Bytes}

/-! ### The bytes of slashes and dots -/

theorem Encodes.unique {b' : Bytes} (h : Encodes t b) (h' : Encodes t b') : b = b' :=
  Except.ok.inj ((encodes_iff.1 h).symm.trans (encodes_iff.1 h'))

theorem encodes_slash : Encodes [slash] [slashByte] := encodes_iff.2 rfl

theorem encodes_dot : Encodes [cp '.'] [dotByte] := encodes_iff.2 rfl

/-- The bytes of a text begin with those of its first code point: a byte below 128 stands for
itself, and the bytes of any other code point hold no such byte. -/
theorem Encodes.exists_append (h : Encodes (c :: t) b) :
    ∃ front back, b = front ++ back ∧ front ≠ [] ∧ Encodes [c] front ∧ Encodes t back ∧
      ∀ x ∈ front, x.toNat < 128 → c.val = x.toNat := by
  cases h with
  | point hc h =>
      refine ⟨Utf8.encodePoint c, _, rfl, ?_, ?_, h, fun x hx => Utf8.val_eq_of_mem_encodePoint hx⟩
      · exact List.ne_nil_of_length_pos (Utf8.length_encodePoint_pos c)
      · rw [← List.append_nil (Utf8.encodePoint c)]
        exact .point hc .nil
  | @stray x _ b hx h =>
      refine ⟨[x], b, rfl, List.cons_ne_nil _ _, .stray hx .nil, h, fun y hy hlt => ?_⟩
      rw [List.mem_singleton.1 hy] at hlt
      omega

theorem Encodes.eq_nil_iff (h : Encodes t b) : b = [] ↔ t = [] := by
  refine ⟨fun hb => ?_, fun ht => h.unique (ht ▸ .nil)⟩
  cases t with
  | nil => rfl
  | cons c t =>
      obtain ⟨front, back, rfl, hfront, _⟩ := h.exists_append
      exact absurd (List.append_eq_nil_iff.1 hb).1 hfront

theorem Encodes.eq_dot_iff (h : Encodes t b) : b = [dotByte] ↔ t = [cp '.'] := by
  refine ⟨fun hb => ?_, fun ht => h.unique (ht ▸ encodes_dot)⟩
  subst hb
  cases t with
  | nil => cases h
  | cons c t =>
      obtain ⟨front, back, hb, hfront, _, ht, hval⟩ := h.exists_append
      rcases List.singleton_eq_append_iff.1 hb with ⟨rfl, _⟩ | ⟨rfl, rfl⟩
      · exact absurd rfl hfront
      · rw [ht.eq_nil_iff.1 rfl]
        exact congrArg (fun d => [d]) (Fin.ext (hval dotByte List.mem_cons_self (by decide)))

/-- The names in the bytes are those that count as parts. -/
theorem Encodes.isPart_eq (h : Encodes t b) : isPart t = (!b.isEmpty && b ≠ [dotByte]) := by
  have hempty : b.isEmpty = t.isEmpty := by
    rw [Bool.eq_iff_iff, List.isEmpty_iff, List.isEmpty_iff, h.eq_nil_iff]
  rw [isPart, hempty, decide_eq_decide.2 (not_congr h.eq_dot_iff)]

/-! ### Cutting texts and bytes -/

/-- The first code point of a text is a slash, and its byte is that of the slash, or neither it nor
its bytes hold one. -/
theorem Encodes.slash_cases (h : Encodes (c :: t) b) :
    (∃ back, c = slash ∧ b = slashByte :: back ∧ Encodes t back) ∨
      ∃ x front back, c ≠ slash ∧ b = x :: front ++ back ∧ Encodes [c] (x :: front) ∧
        slashByte ∉ x :: front ∧ Encodes t back := by
  obtain ⟨front, back, rfl, hfront, hc, ht, hval⟩ := h.exists_append
  by_cases hslash : c = slash
  · subst hslash
    rw [hc.unique encodes_slash]
    exact .inl ⟨back, rfl, rfl, ht⟩
  · obtain ⟨x, front, rfl⟩ := List.exists_cons_of_ne_nil hfront
    refine .inr ⟨x, front, back, hslash, rfl, hc, fun hmem => hslash (Fin.ext ?_), ht⟩
    exact hval slashByte hmem (by decide)

/-- A text starts with as many slashes as its bytes do. -/
theorem Encodes.length_takeWhile (h : Encodes t b) :
    (t.takeWhile (· = slash)).length = (b.takeWhile (· = slashByte)).length := by
  induction t generalizing b with
  | nil => rw [h.eq_nil_iff.2 rfl]; rfl
  | cons c t ih =>
      rcases h.slash_cases with ⟨back, rfl, rfl, ht⟩ | ⟨x, front, back, hc, rfl, _, hx, ht⟩
      · rw [List.takeWhile_cons_of_pos (by simp), List.takeWhile_cons_of_pos (by simp),
          List.length_cons, List.length_cons, ih ht]
      · rw [List.mem_cons, not_or] at hx
        rw [List.cons_append, List.takeWhile_cons_of_neg (by simpa using hc),
          List.takeWhile_cons_of_neg (by simpa using Ne.symm hx.1)]
        rfl

/-- The first part and its bytes get longer, the others stay. -/
theorem Encodes.modifyHead {front : Bytes} (hc : Encodes [c] front) {parts : List Text}
    {names : List Bytes} (h : List.Forall₂ Encodes parts names) :
    List.Forall₂ Encodes (parts.modifyHead (c :: ·)) (names.modifyHead (front ++ ·)) := by
  cases h with
  | nil => exact .nil
  | cons hpart hrest => exact .cons (hc.append hpart) hrest

/-- A text is cut where its bytes are, and the parts have the bytes of the parts. -/
theorem Encodes.splitAt (h : Encodes t b) :
    List.Forall₂ Encodes (t.splitAt slash) (b.splitOn slashByte) := by
  induction t generalizing b with
  | nil =>
      rw [h.eq_nil_iff.2 rfl, splitAt_nil, List.splitOn_nil]
      exact .cons .nil .nil
  | cons c t ih =>
      rcases h.slash_cases with ⟨back, rfl, rfl, ht⟩ | ⟨x, front, back, hc, rfl, hcx, hx, ht⟩
      · rw [splitAt_cons_self, Bytes.splitOn_cons, if_pos rfl]
        exact .cons .nil (ih ht)
      · rw [splitAt_cons_of_ne hc, Bytes.splitOn_append hx]
        exact hcx.modifyHead (ih ht)

/-- The parts of a path have the bytes of the names. -/
theorem Encodes.parts_parse (h : Encodes t b) :
    List.Forall₂ Encodes (parse t).parts (namesIn b) :=
  List.rel_filter (fun _ _ hpart => Bool.eq_iff_iff.1 hpart.isPart_eq) h.splitAt

theorem Encodes.slashes_parse (h : Encodes t b) : (parse t).slashes = slashesIn b :=
  congrArg leading h.length_takeWhile

/-! ### Joining texts and bytes -/

theorem encodes_joinWith {parts : List Text} {names : List Bytes}
    (h : List.Forall₂ Encodes parts names) :
    Encodes (joinWith [slash] parts) ([slashByte].intercalate names) := by
  induction h with
  | nil => exact .nil
  | cons hpart hrest ih =>
      cases hrest with
      | nil => simpa [joinWith] using hpart
      | cons hnext hrest =>
          rw [joinWith, List.intercalate_cons_cons]
          · exact (hpart.append encodes_slash).append ih
          · exact List.cons_ne_nil _ _

theorem encodes_replicate (n : Nat) :
    Encodes (List.replicate n slash) (List.replicate n slashByte) := by
  induction n with
  | zero => exact .nil
  | succ n ih => exact encodes_slash.append ih

/-- The path of a text has the bytes of the path that is read from the bytes. -/
theorem Encodes.text_parse (h : Encodes t b) : Encodes (parse t).text (bytesFrom b) := by
  have hparts := h.parts_parse
  have hnone : (parse t).parts = [] ↔ namesIn b = [] := by
    rw [← List.length_eq_zero_iff, hparts.length_eq, List.length_eq_zero_iff]
  rw [Path.text, bytesFrom, h.slashes_parse]
  by_cases hdot : slashesIn b = 0 ∧ namesIn b = []
  · rw [if_pos hdot, if_pos ⟨hdot.1, hnone.2 hdot.2⟩]
    exact encodes_dot
  · rw [if_neg hdot, if_neg fun h => hdot ⟨h.1, hnone.1 h.2⟩]
    exact (encodes_replicate _).append (encodes_joinWith hparts)

/-- **The file operations get what the bytes say**, whatever text these are the bytes of. -/
theorem Encodes.toSystem_parse (h : Encodes t b) :
    (parse t).toSystem = systemFrom b (parse t).text := by
  have hnames {f : Text → Bytes} (hf : ∀ part name, Encodes part name → f part = name) :
      (parse t).parts.map f = namesIn b := by
    rw [← List.forall₂_eq_eq_eq, List.forall₂_map_left_iff]
    exact h.parts_parse.imp hf
  rw [Path.toSystem, encodes_iff.1 h.text_parse, systemFrom, h.slashes_parse]
  dsimp only
  rw [hnames fun part name hpart => by rw [encodes_iff.1 hpart]]

end Text

end ClaimSeal

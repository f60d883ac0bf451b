import ClaimSeal.FileStore

/-!
**Texts that name files.**

A file name is a byte string without a zero byte.  Read as a text it holds no zero, and of the
surrogates only those that stand for bytes.  Such texts are taken apart and put together by paths
without losing that, so their paths can always be given to a file operation.

Main definitions:

* `CodePoint.IsNameable`, `Text.IsNameable` — what the texts of file names are made of.

Main results:

* `Text.isNameable_ofFileName_iff` — file names are made of it;
* `Text.exists_toFileName_iff` — what is made of it is a file name, and nothing else is;
* `Path.exists_toSystem_iff` — its path can be given to a file operation, and no other path can.
-/

set_option autoImplicit false

namespace ClaimSeal

/-- A code point that occurs in the text of a file name: no zero, and no surrogate but those that
stand for a byte. -/
def CodePoint.IsNameable (c : CodePoint) : Prop :=
  c.val ≠ 0 ∧ (c.isSurrogate = true → (Text.strayByteOf? c).isSome = true)

instance (c : CodePoint) : Decidable c.IsNameable :=
  inferInstanceAs (Decidable (_ ∧ (_ → _)))

namespace Utf8

theorem ofNat_ne_zero {n : Nat} (hpos : 0 < n) (hlt : n < 256) : UInt8.ofNat n ≠ 0 := by
  intro h
  have hn := congrArg UInt8.toNat h
  rw [toNat_ofNat_of_lt hlt] at hn
  exact absurd hn (Nat.ne_of_gt hpos)

/-- An ASCII code point is written as its number, and any other one with a leading byte and others
that can only go on. -/
theorem encodePoint_cases (c : CodePoint) :
    (c.val < 128 ∧ encodePoint c = [UInt8.ofNat c.val]) ∨
      ∃ lead rest, encodePoint c = lead :: rest ∧ 192 ≤ lead.toNat ∧
        ∀ x ∈ rest, 128 ≤ x.toNat ∧ x.toNat < 192 := by
  have hc := c.isLt
  have unit {n : Nat} (h : n < 256) : (UInt8.ofNat n).toNat = n := toNat_ofNat_of_lt h
  have more {n : Nat} (h : n < 64) :
      128 ≤ (UInt8.ofNat (0x80 + n)).toNat ∧ (UInt8.ofNat (0x80 + n)).toNat < 192 := by
    rw [unit (by omega)]
    omega
  have hmod (n : Nat) : n % 64 < 64 := Nat.mod_lt n (by decide)
  unfold encodePoint
  dsimp only
  split
  · next h => exact .inl ⟨h, rfl⟩
  · right
    split
    · refine ⟨_, _, rfl, by rw [unit (by omega)]; omega, ?_⟩
      simp only [List.forall_mem_cons]
      exact ⟨more (hmod _), nofun⟩
    · split
      · refine ⟨_, _, rfl, by rw [unit (by omega)]; omega, ?_⟩
        simp only [List.forall_mem_cons]
        exact ⟨more (hmod _), more (hmod _), nofun⟩
      · refine ⟨_, _, rfl, by rw [unit (by omega)]; omega, ?_⟩
        simp only [List.forall_mem_cons]
        exact ⟨more (hmod _), more (hmod _), more (hmod _), nofun⟩

/-- A byte below 128 stands for the code point of its number and occurs in no other form. -/
theorem val_eq_of_mem_encodePoint {c : CodePoint} {x : UInt8} (hx : x ∈ encodePoint c)
    (hlt : x.toNat < 128) : c.val = x.toNat := by
  rcases encodePoint_cases c with ⟨hc, he⟩ | ⟨lead, rest, he, hlead, hrest⟩
  · rw [he, List.mem_singleton] at hx
    rw [hx, toNat_ofNat_of_lt (by omega)]
  · rw [he] at hx
    rcases List.mem_cons.1 hx with rfl | hx
    · omega
    · have := hrest x hx
      omega

theorem zero_not_mem_encodePoint {c : CodePoint} (h : c.val ≠ 0) : 0 ∉ encodePoint c :=
  fun hzero => h (val_eq_of_mem_encodePoint hzero (by decide))

end Utf8

namespace Text

theorem ne_zero_of_strayByteOf? {c : CodePoint} {b : UInt8} (h : strayByteOf? c = some b) :
    b ≠ 0 := by
  unfold strayByteOf? at h
  split at h
  · next hc =>
      rw [← Option.some.inj h]
      simp only [Bool.and_eq_true, decide_eq_true_eq] at hc
      exact Utf8.ofNat_ne_zero (by omega) (by omega)
  · cases h

/-- A text that is made of what occurs in file names. -/
def IsNameable (t : Text) : Prop := ∀ c ∈ t, c.IsNameable

theorem isNameable_cons {c : CodePoint} {t : Text} :
    IsNameable (c :: t) ↔ c.IsNameable ∧ IsNameable t := List.forall_mem_cons

theorem isNameable_append {s t : Text} : IsNameable (s ++ t) ↔ IsNameable s ∧ IsNameable t :=
  List.forall_mem_append

theorem isNameable_nil : IsNameable [] := nofun

/-- A string without a zero has such a text. -/
theorem isNameable_txt {s : String} (h : s.toList.all (· ≠ '\x00') = true) :
    IsNameable (txt s) := by
  intro c hc
  obtain ⟨d, hd, rfl⟩ := List.mem_map.1 hc
  have hne : d ≠ '\x00' := of_decide_eq_true (List.all_eq_true.1 h d hd)
  have hvalid : d.toNat < 0xD800 ∨ 0xDFFF < d.toNat ∧ d.toNat < 0x110000 := d.valid
  have hval : (cp d).val = d.toNat := CodePoint.val_ofNat (by omega)
  constructor
  · intro hzero
    rw [hval] at hzero
    exact hne (Char.ext (UInt32.toNat_inj.1 hzero))
  · intro hs
    have hs := (CodePoint.isSurrogate_iff _).1 hs
    rw [hval] at hs
    omega

/-- Any part of such a text is one. -/
theorem IsNameable.mono {s t : Text} (ht : IsNameable t) (h : ∀ c ∈ s, c ∈ t) : IsNameable s :=
  fun c hc => ht c (h c hc)

theorem IsNameable.exists_toFileNameFrom {t : Text} (ht : IsNameable t) (position : Nat) :
    ∃ b, toFileNameFrom position t = .ok b ∧ 0 ∉ b := by
  induction t generalizing position with
  | nil => exact ⟨[], rfl, List.not_mem_nil⟩
  | cons c t ih =>
      obtain ⟨hc, ht⟩ := isNameable_cons.1 ht
      obtain ⟨b, hb, hzero⟩ := ih ht (position + 1)
      rw [toFileNameFrom, hb]
      split
      · next hs =>
          obtain ⟨x, hx⟩ := Option.isSome_iff_exists.1 (hc.2 hs)
          rw [hx]
          refine ⟨x :: b, rfl, ?_⟩
          rw [List.mem_cons, not_or]
          exact ⟨(ne_zero_of_strayByteOf? hx).symm, hzero⟩
      · refine ⟨Utf8.encodePoint c ++ b, rfl, ?_⟩
        rw [List.mem_append, not_or]
        exact ⟨Utf8.zero_not_mem_encodePoint hc.1, hzero⟩

/-- A text that is made of what occurs in file names is a file name. -/
theorem IsNameable.exists_toFileName {t : Text} (ht : IsNameable t) :
    ∃ b, t.toFileName = .ok b ∧ 0 ∉ b := ht.exists_toFileNameFrom 0

theorem isNameable_of_toFileNameFrom {t : Text} {position : Nat} {b : Bytes}
    (h : toFileNameFrom position t = .ok b) (hzero : 0 ∉ b) : IsNameable t := by
  induction t generalizing position b with
  | nil => exact isNameable_nil
  | cons c t ih =>
      rw [toFileNameFrom] at h
      cases hrest : toFileNameFrom (position + 1) t with
      | error e =>
          rw [hrest] at h
          split at h
          · split at h <;> cases h
          · cases h
      | ok rest =>
          rw [hrest] at h
          split at h
          · next hs =>
              split at h
              · next x hx =>
                  cases h
                  have hrest0 : 0 ∉ rest := fun hm => hzero (List.mem_cons_of_mem x hm)
                  refine isNameable_cons.2 ⟨⟨?_, fun _ => by rw [hx]; rfl⟩, ih hrest hrest0⟩
                  have := ((CodePoint.isSurrogate_iff c).1 hs).1
                  omega
              · cases h
          · next hs =>
              cases h
              have hrest0 : 0 ∉ rest := fun hm => hzero (List.mem_append_right _ hm)
              refine isNameable_cons.2 ⟨⟨?_, fun h => absurd h hs⟩, ih hrest hrest0⟩
              -- the form of zero is a zero byte
              intro hc
              refine hzero (List.mem_append_left _ ?_)
              unfold Utf8.encodePoint
              dsimp only
              rw [hc]
              exact List.mem_cons_self

/-- The text of a file name is made of what occurs in file names. -/
theorem isNameable_ofFileName {b : Bytes} (h : 0 ∉ b) : IsNameable (ofFileName b) :=
  isNameable_of_toFileNameFrom (toFileName_ofFileName b) h

/-- Nothing else is a file name. -/
theorem exists_toFileName_iff {t : Text} :
    (∃ b, t.toFileName = .ok b ∧ 0 ∉ b) ↔ t.IsNameable :=
  ⟨fun ⟨_, hb, hzero⟩ => isNameable_of_toFileNameFrom hb hzero, fun ht => ht.exists_toFileName⟩

theorem isNameable_ofFileName_iff {b : Bytes} : IsNameable (ofFileName b) ↔ 0 ∉ b := by
  refine ⟨fun h => ?_, isNameable_ofFileName⟩
  obtain ⟨b', hb', hzero⟩ := h.exists_toFileName
  rw [toFileName_ofFileName] at hb'
  rwa [Except.ok.inj hb']

/-! ### Paths -/

theorem mem_of_mem_splitAt {sep c : CodePoint} {part t : Text} (hpart : part ∈ splitAt sep t)
    (hc : c ∈ part) : c ∈ t := by
  induction t generalizing part with
  | nil =>
      rw [List.mem_singleton.1 hpart] at hc
      cases hc
  | cons d t ih =>
      rw [splitAt, List.foldr_cons] at hpart
      split at hpart
      · rcases List.mem_cons.1 hpart with h | h
        · rw [h] at hc
          cases hc
        · exact List.mem_cons_of_mem d (ih h hc)
      · split at hpart
        · rw [List.mem_singleton.1 hpart] at hc
          rw [List.mem_singleton.1 hc]
          exact List.mem_cons_self
        · next first rest hs =>
            rcases List.mem_cons.1 hpart with h | h
            · rw [h] at hc
              rcases List.mem_cons.1 hc with hc | hc
              · rw [hc]
                exact List.mem_cons_self
              · exact List.mem_cons_of_mem d
                  (ih (by rw [splitAt, hs]; exact List.mem_cons_self) hc)
            · exact List.mem_cons_of_mem d
                (ih (by rw [splitAt, hs]; exact List.mem_cons_of_mem _ h) hc)

theorem isNameable_joinWith {sep : Text} {parts : List Text} (hsep : IsNameable sep)
    (h : ∀ part ∈ parts, IsNameable part) : IsNameable (joinWith sep parts) := by
  induction parts with
  | nil => exact isNameable_nil
  | cons part rest ih =>
      have hpart := h part List.mem_cons_self
      have hrest := ih fun q hq => h q (List.mem_cons_of_mem part hq)
      cases rest with
      | nil => exact hpart
      | cons next rest =>
          rw [joinWith]
          · exact isNameable_append.2 ⟨isNameable_append.2 ⟨hpart, hsep⟩, hrest⟩
          · exact List.cons_ne_nil _ _

/-- The path of such a text is written with what occurs in file names. -/
theorem IsNameable.text_parse {t : Text} (ht : IsNameable t) : IsNameable (Path.parse t).text := by
  have hslash : IsNameable [Path.slash] := by
    intro c hc
    rw [List.mem_singleton.1 hc]
    decide
  unfold Path.text
  split
  · intro c hc
    rw [List.mem_singleton.1 hc]
    decide
  · refine isNameable_append.2 ⟨?_, isNameable_joinWith hslash ?_⟩
    · intro c hc
      rw [List.eq_of_mem_replicate hc]
      exact hslash _ List.mem_cons_self
    · intro part hpart
      exact ht.mono fun c hc => mem_of_mem_splitAt (List.mem_filter.1 hpart).1 hc

/-- What stands in a text is the separator or stands in one of the parts. -/
theorem exists_mem_splitAt {sep c : CodePoint} {t : Text} (hc : c ∈ t) :
    c = sep ∨ ∃ part ∈ splitAt sep t, c ∈ part := by
  induction t with
  | nil => cases hc
  | cons d t ih =>
      rw [splitAt, List.foldr_cons]
      split
      · next hd =>
          rcases List.mem_cons.1 hc with rfl | hc
          · exact .inl hd
          · rcases ih hc with h | ⟨part, hpart, h⟩
            · exact .inl h
            · exact .inr ⟨part, List.mem_cons_of_mem _ hpart, h⟩
      · split
        · next hs => exact absurd hs (splitAt_ne_nil sep t)
        · next first rest hs =>
            rcases List.mem_cons.1 hc with rfl | hc
            · exact .inr ⟨_, List.mem_cons_self, List.mem_cons_self⟩
            · rcases ih hc with h | ⟨part, hpart, h⟩
              · exact .inl h
              · rw [splitAt, hs] at hpart
                rcases List.mem_cons.1 hpart with rfl | hpart
                · exact .inr ⟨_, List.mem_cons_self, List.mem_cons_of_mem d h⟩
                · exact .inr ⟨part, List.mem_cons_of_mem _ hpart, h⟩

theorem mem_joinWith {sep part : Text} {parts : List Text} {c : CodePoint} (hpart : part ∈ parts)
    (hc : c ∈ part) : c ∈ joinWith sep parts := by
  induction parts with
  | nil => cases hpart
  | cons first rest ih =>
      cases rest with
      | nil =>
          rw [List.mem_singleton.1 hpart] at hc
          exact hc
      | cons next rest =>
          rw [joinWith]
          · rcases List.mem_cons.1 hpart with rfl | hpart
            · exact List.mem_append_left _ (List.mem_append_left _ hc)
            · exact List.mem_append_right _ (ih hpart)
          · exact List.cons_ne_nil _ _

/-- No other text has a path that is written with it: a path leaves out nothing but slashes and
dots. -/
theorem isNameable_text_parse_iff {t : Text} : IsNameable (Path.parse t).text ↔ IsNameable t := by
  refine ⟨fun h c hc => ?_, IsNameable.text_parse⟩
  have hsplit : c = Path.slash ∨ ∃ part ∈ splitAt Path.slash t, c ∈ part := exists_mem_splitAt hc
  rcases hsplit with rfl | ⟨part, hpart, hc⟩
  · decide
  · by_cases hdot : part = [cp '.']
    · rw [hdot, List.mem_singleton] at hc
      rw [hc]
      decide
    · -- the part is kept, so the path is written with it
      have hkept : part ∈ (Path.parse t).parts := by
        refine List.mem_filter.2 ⟨hpart, ?_⟩
        simp [Path.isPart, List.ne_nil_of_mem hc, hdot]
      refine h c ?_
      unfold Path.text
      rw [if_neg fun hnone => List.ne_nil_of_mem hkept hnone.2]
      exact List.mem_append_right _ (mem_joinWith hkept hc)

end Text

/-- A path can be given to a file operation if it is written with what occurs in file names, and
only then. -/
theorem Path.exists_toSystem_iff {p : Path} :
    (∃ sys, p.toSystem = .ok sys) ↔ p.text.IsNameable := by
  rw [← Text.exists_toFileName_iff, toSystem]
  cases p.text.toFileName with
  | error run => simp
  | ok whole =>
      by_cases hzero : 0 ∈ whole <;> simp [hzero]

/-- The path of a text that is made of what occurs in file names can be given to one. -/
theorem Text.IsNameable.exists_toSystem {t : Text} (ht : IsNameable t) :
    ∃ sys, (Path.parse t).toSystem = .ok sys := Path.exists_toSystem_iff.2 ht.text_parse

end ClaimSeal

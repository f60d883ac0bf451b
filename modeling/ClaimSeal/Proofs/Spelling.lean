import ClaimSeal.Proofs.FileNames
import ClaimSeal.Proofs.Operation

/-!
**Texts with the same file name.**

A file name is read as UTF-8, and a byte that belongs to no valid form becomes a surrogate.  Writing
undoes that.  The other way round, reading undoes writing only if no surrogates next to each other
stand for the bytes of a code point: these are read as that code point.

Main definitions:

* `Text.Encodes` — the bytes that a text is written with;
* `Text.SpellsOut` — surrogates in a text stand for the bytes of a code point.

Main results:

* `Text.encodes_iff` — these rules give what writing gives;
* `Text.ofFileName_eq_iff` — **reading undoes writing exactly if nothing is spelled out**.
-/

set_option autoImplicit false

namespace ClaimSeal

namespace Text

/-! ### Surrogates that stand for bytes -/

theorem val_strayByte (x : UInt8) : (strayByte x).val = 0xDC00 + x.toNat := by
  have hx := x.toNat_lt
  exact CodePoint.val_ofNat (by omega)

theorem isSurrogate_strayByte (x : UInt8) : (strayByte x).isSurrogate = true := by
  have hx := x.toNat_lt
  rw [CodePoint.isSurrogate_iff, val_strayByte]
  omega

theorem strayByte_injective {x y : UInt8} (h : strayByte x = strayByte y) : x = y := by
  have hval := congrArg Fin.val h
  rw [val_strayByte, val_strayByte] at hval
  exact UInt8.toNat_inj.1 (Nat.add_left_cancel hval)

theorem strayByteOf?_eq_some_iff {c : CodePoint} {x : UInt8} :
    strayByteOf? c = some x ↔ 128 ≤ x.toNat ∧ c = strayByte x := by
  constructor
  · intro h
    unfold strayByteOf? at h
    split at h
    · next hc =>
        simp only [Bool.and_eq_true, decide_eq_true_eq] at hc
        have hx : x.toNat = c.val - 0xDC00 := by
          rw [← Option.some.inj h, Utf8.toNat_ofNat_of_lt (by omega)]
        refine ⟨by omega, Fin.ext ?_⟩
        rw [val_strayByte]
        omega
    · cases h
  · rintro ⟨hx, rfl⟩
    exact (strayByteOf?_strayByte hx).2

/-! ### The bytes of a text -/

/-- The bytes that a text is written with: its code points have their form in UTF-8, but a surrogate
is the byte that it stands for. -/
inductive Encodes : Text → Bytes → Prop
  | nil : Encodes [] []
  | point {c : CodePoint} {t : Text} {b : Bytes} (hc : c.isSurrogate = false) (h : Encodes t b) :
      Encodes (c :: t) (Utf8.encodePoint c ++ b)
  | stray {x : UInt8} {t : Text} {b : Bytes} (hx : 128 ≤ x.toNat) (h : Encodes t b) :
      Encodes (strayByte x :: t) (x :: b)

theorem Encodes.toFileNameFrom {t : Text} {b : Bytes} (h : Encodes t b) (position : Nat) :
    toFileNameFrom position t = .ok b := by
  induction h generalizing position with
  | nil => rfl
  | point hc _ ih =>
      rw [Text.toFileNameFrom, if_neg (by rw [hc]; exact Bool.false_ne_true), ih]
      rfl
  | stray hx _ ih =>
      obtain ⟨hs, hbyte⟩ := strayByteOf?_strayByte hx
      rw [Text.toFileNameFrom, if_pos hs, hbyte]
      dsimp only
      rw [ih]
      rfl

theorem encodes_of_toFileNameFrom {t : Text} {position : Nat} {b : Bytes}
    (h : toFileNameFrom position t = .ok b) : Encodes t b := by
  induction t generalizing position b with
  | nil =>
      cases h
      exact .nil
  | cons c t ih =>
      rw [toFileNameFrom] at h
      split at h
      · split at h
        · next x hx =>
            obtain ⟨rest, hrest, rfl⟩ := Outcome.map_eq_ok_iff.1 h
            obtain ⟨hle, rfl⟩ := strayByteOf?_eq_some_iff.1 hx
            exact .stray hle (ih hrest)
        · cases h
      · next hs =>
          obtain ⟨rest, hrest, rfl⟩ := Outcome.map_eq_ok_iff.1 h
          exact .point (Bool.eq_false_iff.2 hs) (ih hrest)

/-- A text is written with the bytes that writing gives, and with no others. -/
theorem encodes_iff {t : Text} {b : Bytes} : Encodes t b ↔ t.toFileName = .ok b :=
  ⟨fun h => h.toFileNameFrom 0, encodes_of_toFileNameFrom⟩

/-- The text that a file name is read as is written with it. -/
theorem encodes_ofFileName (b : Bytes) : Encodes (ofFileName b) b :=
  encodes_iff.2 (toFileName_ofFileName b)

theorem Encodes.append {s t : Text} {a b : Bytes} (hs : Encodes s a) (ht : Encodes t b) :
    Encodes (s ++ t) (a ++ b) := by
  induction hs with
  | nil => exact ht
  | point hc _ ih =>
      rw [List.append_assoc]
      exact .point hc ih
  | stray hx _ ih => exact .stray hx ih

/-- Bytes that can only go on in UTF-8 are written at the front for surrogates alone. -/
theorem Encodes.exists_of_continues {t : Text} {front back : Bytes}
    (hfront : ∀ x ∈ front, 128 ≤ x.toNat ∧ x.toNat < 192) (h : Encodes t (front ++ back)) :
    ∃ rest, t = front.map strayByte ++ rest := by
  induction front generalizing t with
  | nil => exact ⟨t, rfl⟩
  | cons x front ih =>
      obtain ⟨hx, hfront⟩ := List.forall_mem_cons.1 hfront
      generalize hb : x :: front ++ back = b at h
      cases h with
      | nil => cases hb
      | @point c t b hc h =>
          -- the form of a code point starts with no such byte
          rcases Utf8.encodePoint_cases c with ⟨hlt, he⟩ | ⟨lead, more, he, hlead, _⟩
          · rw [he] at hb
            have hval := congrArg UInt8.toNat (List.cons.inj hb).1
            rw [Utf8.toNat_ofNat_of_lt (by omega)] at hval
            omega
          · rw [he] at hb
            have hval := congrArg UInt8.toNat (List.cons.inj hb).1
            omega
      | stray _ h =>
          obtain ⟨rfl, rfl⟩ := List.cons.inj hb
          obtain ⟨rest, rfl⟩ := ih hfront h
          exact ⟨rest, rfl⟩

/-- Surrogates that stand for bytes are written as these bytes. -/
theorem Encodes.exists_of_strays {front : Bytes} {t : Text} {b : Bytes}
    (h : Encodes (front.map strayByte ++ t) b) : ∃ back, b = front ++ back := by
  induction front generalizing b with
  | nil => exact ⟨b, rfl⟩
  | cons x front ih =>
      generalize hs : (x :: front).map strayByte ++ t = s at h
      cases h with
      | nil => cases hs
      | point hc _ =>
          rw [← (List.cons.inj hs).1, isSurrogate_strayByte] at hc
          cases hc
      | stray _ h =>
          obtain ⟨hxy, rfl⟩ := List.cons.inj hs
          obtain ⟨back, rfl⟩ := ih h
          exact ⟨back, by rw [strayByte_injective hxy, List.cons_append]⟩

end Text

/-! ### Reading a file name from the front -/

/-- As long as there is enough of it the fuel does not matter. -/
theorem Utf8.decodeWith_fuel (stray : UInt8 → Option CodePoint) {fuel fuel' : Nat} {b : Bytes}
    (h : b.length ≤ fuel) (h' : b.length ≤ fuel') :
    decodeWith stray fuel b = decodeWith stray fuel' b := by
  induction fuel generalizing fuel' b with
  | zero =>
      rw [List.length_eq_zero_iff.1 (Nat.le_zero.1 h)]
      cases fuel' <;> rfl
  | succ fuel ih =>
      cases b with
      | nil => cases fuel' <;> rfl
      | cons x rest =>
          cases fuel' with
          | zero => exact absurd h' (Nat.not_succ_le_zero _)
          | succ fuel' =>
              rw [List.length_cons] at h h'
              rw [decodeWith, decodeWith]
              cases decodePoint? (x :: rest) with
              | none =>
                  have hrest : decodeWith stray fuel rest = decodeWith stray fuel' rest :=
                    ih (Nat.le_of_succ_le_succ h) (Nat.le_of_succ_le_succ h')
                  dsimp only
                  rw [hrest]
              | some c =>
                  have hpos := length_encodePoint_pos c
                  have hdrop : ((x :: rest).drop (encodePoint c).length).length ≤ rest.length := by
                    rw [List.length_drop, List.length_cons]
                    omega
                  have hrest :
                      decodeWith stray fuel ((x :: rest).drop (encodePoint c).length) =
                        decodeWith stray fuel' ((x :: rest).drop (encodePoint c).length) :=
                    ih (by omega) (by omega)
                  dsimp only
                  rw [hrest]

namespace Text

theorem decodeWith_eq_ofFileName {fuel : Nat} {b : Bytes} (h : b.length ≤ fuel) :
    Utf8.decodeWith (fun x => some (strayByte x)) fuel b = some (ofFileName b) := by
  obtain ⟨t, ht, _⟩ := toFileNameFrom_decodeWith b.length 0 (Nat.le_refl b.length)
  rw [Utf8.decodeWith_fuel _ h (Nat.le_refl _), ofFileName, ht]
  rfl

/-- The form of a code point at the front is read as the code point. -/
theorem ofFileName_encodePoint_append {c : CodePoint} (hc : c.isSurrogate = false) (b : Bytes) :
    ofFileName (Utf8.encodePoint c ++ b) = c :: ofFileName b := by
  have hwhole := decodeWith_eq_ofFileName (Nat.le_succ (Utf8.encodePoint c ++ b).length)
  rw [Utf8.decodeWith_encodePoint _ _ hc, decodeWith_eq_ofFileName (by simp)] at hwhole
  exact (Option.some.inj hwhole).symm

/-- A byte at the front that starts no form is read as the surrogate that stands for it. -/
theorem ofFileName_cons {x : UInt8} {b : Bytes} (h : Utf8.decodePoint? (x :: b) = none) :
    ofFileName (x :: b) = strayByte x :: ofFileName b := by
  have hwhole := decodeWith_eq_ofFileName (Nat.le_refl (x :: b).length)
  rw [List.length_cons, Utf8.decodeWith, h] at hwhole
  dsimp only at hwhole
  rw [decodeWith_eq_ofFileName (Nat.le_refl _)] at hwhole
  exact (Option.some.inj hwhole).symm

/-! ### When reading undoes writing -/

/-- Surrogates next to each other stand for the bytes of a code point. -/
def SpellsOut (t : Text) : Prop :=
  ∃ front c back, t = front ++ ((Utf8.encodePoint c).map strayByte ++ back) ∧
    c.isSurrogate = false

theorem SpellsOut.cons {t : Text} (h : SpellsOut t) (d : CodePoint) : SpellsOut (d :: t) := by
  obtain ⟨front, c, back, rfl, hc⟩ := h
  exact ⟨d :: front, c, back, rfl, hc⟩

/-- Nothing is spelled out without surrogates. -/
theorem not_spellsOut_of_forall {t : Text} (h : ∀ c ∈ t, c.isSurrogate = false) :
    ¬ t.SpellsOut := by
  rintro ⟨front, c, back, rfl, _⟩
  have hpos := Utf8.length_encodePoint_pos c
  obtain ⟨x, hx⟩ := List.exists_mem_of_length_pos hpos
  have hstray : strayByte x ∈ front ++ ((Utf8.encodePoint c).map strayByte ++ back) :=
    List.mem_append_right _ (List.mem_append_left _ (List.mem_map_of_mem hx))
  exact absurd (h _ hstray) (by rw [isSurrogate_strayByte]; exact nofun)

/-- Reading never leaves a code point spelled out. -/
theorem not_spellsOut_ofFileName (b : Bytes) : ¬ (ofFileName b).SpellsOut := by
  rintro ⟨front, c, back, ht, hc⟩
  -- induction on what stands before: reading takes as much off the bytes
  induction front generalizing b with
  | nil =>
      obtain ⟨rest, rfl⟩ := (ht ▸ encodes_ofFileName b : Encodes _ b).exists_of_strays
      rw [List.nil_append, ofFileName_encodePoint_append hc] at ht
      obtain ⟨x, more, he⟩ := List.exists_cons_of_length_pos (Utf8.length_encodePoint_pos c)
      rw [he, List.map_cons, List.cons_append] at ht
      rw [(List.cons.inj ht).1, isSurrogate_strayByte] at hc
      cases hc
  | cons d front ih =>
      cases b with
      | nil => cases ht
      | cons x b =>
          cases hpoint : Utf8.decodePoint? (x :: b) with
          | none =>
              rw [ofFileName_cons hpoint] at ht
              exact ih b (List.cons.inj ht).2
          | some e =>
              obtain ⟨he, hb⟩ := Utf8.eq_append_of_decodePoint? hpoint
              rw [← hb, ofFileName_encodePoint_append he] at ht
              exact ih _ (List.cons.inj ht).2

/-- A byte that a surrogate was written as starts no form, if nothing is spelled out. -/
theorem decodePoint?_of_not_spellsOut {x : UInt8} {t : Text} {b : Bytes} (hx : 128 ≤ x.toNat)
    (h : Encodes t b) (ht : ¬ SpellsOut (strayByte x :: t)) :
    Utf8.decodePoint? (x :: b) = none := by
  cases hpoint : Utf8.decodePoint? (x :: b) with
  | none => rfl
  | some c =>
      obtain ⟨hc, hb⟩ := Utf8.eq_append_of_decodePoint? hpoint
      generalize (x :: b).drop (Utf8.encodePoint c).length = back at hb
      rcases Utf8.encodePoint_cases c with ⟨hlt, he⟩ | ⟨lead, more, he, _, hmore⟩
      · rw [he] at hb
        have hval := congrArg UInt8.toNat (List.cons.inj hb).1
        rw [Utf8.toNat_ofNat_of_lt (by omega)] at hval
        omega
      · -- the other bytes of the form were surrogates, too
        rw [he] at hb
        obtain ⟨rfl, rfl⟩ := List.cons.inj hb
        obtain ⟨rest, rfl⟩ := h.exists_of_continues hmore
        exact absurd ⟨[], c, rest, by rw [he]; rfl, hc⟩ ht

theorem Encodes.ofFileName_eq {t : Text} {b : Bytes} (h : Encodes t b) (ht : ¬ t.SpellsOut) :
    ofFileName b = t := by
  induction h with
  | nil => rfl
  | point hc _ ih => rw [ofFileName_encodePoint_append hc, ih fun hs => ht (hs.cons _)]
  | stray hx h ih =>
      rw [ofFileName_cons (decodePoint?_of_not_spellsOut hx h ht), ih fun hs => ht (hs.cons _)]

/-- **Reading undoes writing exactly if nothing is spelled out**: no surrogates next to each other
stand for the bytes of a code point. -/
theorem ofFileName_eq_iff {t : Text} {b : Bytes} (h : Encodes t b) :
    ofFileName b = t ↔ ¬ t.SpellsOut :=
  ⟨fun he => he ▸ not_spellsOut_ofFileName b, h.ofFileName_eq⟩

end Text

end ClaimSeal

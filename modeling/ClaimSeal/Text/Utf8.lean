import ClaimSeal.Text

/-!
**UTF-8, and the names of a file system.**

Strict UTF-8 as in its standard: shortest forms only, no surrogates, nothing above `U+10FFFF`.
A file name is any byte string; `Text.ofFileName` reads it as UTF-8 and keeps each byte `b` that
is not part of a valid sequence as the lone surrogate `U+DC00 + b`, and `Text.toFileName` writes
such surrogates as the bytes they stand for.

Main definitions:

* `Utf8.encode?`, `Utf8.decode?` — strict UTF-8;
* `Text.ofFileName`, `Text.toFileName` — texts as file names.

Main results:

* `Utf8.decode?_of_encode?` — a text that is written reads back;
* `Text.toFileName_ofFileName` — every byte string is written as it was read.
-/

set_option autoImplicit false

namespace ClaimSeal

namespace Utf8

/-- The bytes of one code point. -/
def encodePoint (c : CodePoint) : Bytes :=
  let n := c.val
  if n < 0x80 then [UInt8.ofNat n]
  else if n < 0x800 then [UInt8.ofNat (0xC0 + n / 64), UInt8.ofNat (0x80 + n % 64)]
  else if n < 0x10000 then
    [UInt8.ofNat (0xE0 + n / 4096), UInt8.ofNat (0x80 + n / 64 % 64), UInt8.ofNat (0x80 + n % 64)]
  else
    [UInt8.ofNat (0xF0 + n / 262144), UInt8.ofNat (0x80 + n / 4096 % 64),
      UInt8.ofNat (0x80 + n / 64 % 64), UInt8.ofNat (0x80 + n % 64)]

/-- The bytes of a text; a surrogate has none. -/
def encode? (t : Text) : Option Bytes :=
  if t.any CodePoint.isSurrogate then none else some (t.flatMap encodePoint)

/-- The number that the bits at the front of a byte string make up, in the form that the first byte
announces; missing bytes count as zero. -/
def number (b : Bytes) : Nat :=
  let unit (i : Nat) : Nat := (b.getD i 0).toNat
  if unit 0 < 0x80 then unit 0
  else if unit 0 < 0xE0 then unit 0 % 32 * 64 + unit 1 % 64
  else if unit 0 < 0xF0 then unit 0 % 16 * 4096 + unit 1 % 64 * 64 + unit 2 % 64
  else unit 0 % 8 * 262144 + unit 1 % 64 * 4096 + unit 2 % 64 * 64 + unit 3 % 64

/-- The code point at the front of a byte string, if its own bytes stand there. -/
def decodePoint? (b : Bytes) : Option CodePoint :=
  let c := CodePoint.ofNat (number b)
  if !c.isSurrogate && (encodePoint c).isPrefixOf b then some c else none

/-- Reads a byte string from the front; `stray` says what to do with a byte that starts no valid
sequence, and `fuel` bounds the number of code points. -/
def decodeWith (stray : UInt8 → Option CodePoint) : (fuel : Nat) → Bytes → Option Text
  | 0, _ => some []
  | _, [] => some []
  | fuel + 1, b :: rest =>
      match decodePoint? (b :: rest) with
      | some c =>
          (decodeWith stray fuel ((b :: rest).drop (encodePoint c).length)).map (c :: ·)
      | none =>
          match stray b with
          | some c => (decodeWith stray fuel rest).map (c :: ·)
          | none => none

/-- The text of a valid byte string. -/
def decode? (b : Bytes) : Option Text := decodeWith (fun _ => none) b.length b

theorem toNat_ofNat_of_lt {n : Nat} (h : n < 256) : (UInt8.ofNat n).toNat = n := by
  rw [UInt8.toNat_ofNat']
  exact Nat.mod_eq_of_lt h

/-! ### Reading back -/

/-- The form of a code point leads back to its number. -/
theorem number_encodePoint (c : CodePoint) (rest : Bytes) :
    number (encodePoint c ++ rest) = c.val := by
  have hc := c.isLt
  have unit {n : Nat} (h : n < 256) : (UInt8.ofNat n).toNat = n := toNat_ofNat_of_lt h
  unfold encodePoint number
  dsimp only
  split
  · next h =>
      simp only [List.cons_append, List.getD_cons_zero]
      rw [unit (by omega), if_pos h]
  · split
    · simp only [List.cons_append, List.getD_cons_zero, List.getD_cons_succ]
      rw [unit (by omega), unit (by omega), if_neg (by omega), if_pos (by omega)]
      omega
    · split
      · simp only [List.cons_append, List.getD_cons_zero, List.getD_cons_succ]
        rw [unit (by omega), unit (by omega), unit (by omega), if_neg (by omega),
          if_neg (by omega), if_pos (by omega)]
        omega
      · simp only [List.cons_append, List.getD_cons_zero, List.getD_cons_succ]
        rw [unit (by omega), unit (by omega), unit (by omega), unit (by omega), if_neg (by omega),
          if_neg (by omega), if_neg (by omega)]
        omega

/-- A code point that is no surrogate reads back. -/
theorem decodePoint?_encodePoint {c : CodePoint} (h : c.isSurrogate = false) (rest : Bytes) :
    decodePoint? (encodePoint c ++ rest) = some c := by
  have hp : (encodePoint c).isPrefixOf (encodePoint c ++ rest) = true :=
    List.isPrefixOf_iff_prefix.2 (List.prefix_append _ _)
  unfold decodePoint?
  dsimp only
  rw [number_encodePoint, CodePoint.ofNat_val, h, hp]
  rfl

/-- A code point that is read is no surrogate, and its own form stands at the front. -/
theorem eq_append_of_decodePoint? {b : Bytes} {c : CodePoint} (h : decodePoint? b = some c) :
    c.isSurrogate = false ∧ encodePoint c ++ b.drop (encodePoint c).length = b := by
  unfold decodePoint? at h
  generalize CodePoint.ofNat (number b) = d at h
  dsimp only at h
  split at h
  · next hb =>
      obtain ⟨hs, hp⟩ := Bool.and_eq_true_iff.1 hb
      obtain ⟨rest, hr⟩ := List.isPrefixOf_iff_prefix.1 hp
      rw [← Option.some.inj h, ← hr, List.drop_left]
      exact ⟨by simpa using hs, rfl⟩
  · exact nomatch h

/-- A byte below 128 stands for the code point of its number. -/
theorem decodePoint?_cons_of_lt {b : UInt8} (h : b.toNat < 128) (rest : Bytes) :
    decodePoint? (b :: rest) = some (CodePoint.ofNat b.toNat) := by
  have hv := CodePoint.val_ofNat (n := b.toNat) (by omega)
  have he : encodePoint (CodePoint.ofNat b.toNat) = [b] := by
    unfold encodePoint
    dsimp only
    rw [hv, if_pos h, UInt8.ofNat_toNat]
  have hs : (CodePoint.ofNat b.toNat).isSurrogate = false :=
    Bool.eq_false_iff.2 fun e => by
      have := ((CodePoint.isSurrogate_iff _).1 e).1
      omega
  have := decodePoint?_encodePoint hs rest
  rwa [he] at this

theorem length_encodePoint_pos (c : CodePoint) : 0 < (encodePoint c).length := by
  unfold encodePoint
  dsimp only
  split
  · exact Nat.one_pos
  · split
    · exact Nat.two_pos
    · split <;> exact Nat.succ_pos _

theorem decodeWith_encodePoint (stray : UInt8 → Option CodePoint) (fuel : Nat) {c : CodePoint}
    (h : c.isSurrogate = false) (b : Bytes) :
    decodeWith stray (fuel + 1) (encodePoint c ++ b) = (decodeWith stray fuel b).map (c :: ·) := by
  have hd := decodePoint?_encodePoint h b
  cases he : encodePoint c ++ b with
  | nil =>
      have := length_encodePoint_pos c
      rw [List.append_eq_nil_iff] at he
      rw [he.1] at this
      exact absurd this (Nat.lt_irrefl 0)
  | cons x rest =>
      rw [he] at hd
      rw [decodeWith, hd, ← he]
      show Option.map _ (decodeWith stray fuel ((encodePoint c ++ b).drop _)) = _
      rw [List.drop_left]

theorem decodeWith_flatMap (stray : UInt8 → Option CodePoint) {t : Text}
    (h : ∀ c ∈ t, c.isSurrogate = false) {fuel : Nat} (hf : t.length ≤ fuel) :
    decodeWith stray fuel (t.flatMap encodePoint) = some t := by
  induction t generalizing fuel with
  | nil => cases fuel <;> rfl
  | cons c t ih =>
      cases fuel with
      | zero => exact absurd hf (Nat.not_succ_le_zero _)
      | succ fuel =>
          have hc := h c List.mem_cons_self
          have ht := ih (fun d hd => h d (List.mem_cons_of_mem c hd)) (Nat.le_of_succ_le_succ hf)
          rw [List.flatMap_cons, decodeWith_encodePoint stray fuel hc, ht]
          rfl

theorem length_le_length_flatMap (t : Text) : t.length ≤ (t.flatMap encodePoint).length := by
  induction t with
  | nil => exact Nat.le_refl 0
  | cons c t ih =>
      have := length_encodePoint_pos c
      rw [List.flatMap_cons, List.length_append, List.length_cons]
      omega

/-- What is written reads back. -/
theorem decode?_of_encode? {t : Text} {b : Bytes} (h : encode? t = some b) :
    decode? b = some t := by
  unfold encode? at h
  split at h
  · exact nomatch h
  · next hs =>
      have ht : ∀ c ∈ t, c.isSurrogate = false := fun c hc =>
        Bool.eq_false_iff.2 fun e => hs (List.any_eq_true.2 ⟨c, hc, e⟩)
      rw [← Option.some.inj h]
      exact decodeWith_flatMap _ ht (length_le_length_flatMap t)

end Utf8

namespace Text

/-- The surrogate that stands for a byte outside any valid sequence. -/
def strayByte (b : UInt8) : CodePoint := CodePoint.ofNat (0xDC00 + b.toNat)

/-- A file name as a text. -/
def ofFileName (b : Bytes) : Text :=
  (Utf8.decodeWith (fun x => some (strayByte x)) b.length b).getD []

/-- A run of surrogates whose first one no file name can hold: the positions of the first and of the
last one. -/
structure Unencodable where
  first : Nat
  last : Nat
  point : CodePoint
deriving DecidableEq, Repr

/-- The byte that a surrogate stands for. -/
def strayByteOf? (c : CodePoint) : Option UInt8 :=
  if 0xDC80 ≤ c.val && c.val ≤ 0xDCFF then some (UInt8.ofNat (c.val - 0xDC00)) else none

/-- The bytes of a text as a file name, counting positions from `position`. -/
def toFileNameFrom (position : Nat) : Text → Except Unencodable Bytes
  | [] => .ok []
  | c :: rest =>
      if c.isSurrogate then
        match strayByteOf? c with
        | some b => (toFileNameFrom (position + 1) rest).map (b :: ·)
        | none =>
            .error ⟨position, position + (rest.takeWhile CodePoint.isSurrogate).length, c⟩
      else (toFileNameFrom (position + 1) rest).map (Utf8.encodePoint c ++ ·)

/-- The bytes of a text as a file name.  Of the surrogates only those that stand for a byte can
be written. -/
def toFileName (t : Text) : Except Unencodable Bytes := toFileNameFrom 0 t

/-! ### Writing back -/

theorem strayByteOf?_strayByte {b : UInt8} (h : 128 ≤ b.toNat) :
    (strayByte b).isSurrogate = true ∧ strayByteOf? (strayByte b) = some b := by
  have hb := b.toNat_lt
  have hv := CodePoint.val_ofNat (n := 0xDC00 + b.toNat) (by omega)
  refine ⟨(CodePoint.isSurrogate_iff _).2 ?_, ?_⟩
  · unfold strayByte
    rw [hv]
    omega
  · unfold strayByteOf? strayByte
    rw [hv, Nat.add_sub_cancel_left, UInt8.ofNat_toNat, if_pos]
    rw [Bool.and_eq_true_iff]
    exact ⟨decide_eq_true (by omega), decide_eq_true (by omega)⟩

theorem toFileNameFrom_decodeWith (fuel position : Nat) {b : Bytes} (h : b.length ≤ fuel) :
    ∃ t, Utf8.decodeWith (fun x => some (strayByte x)) fuel b = some t ∧
      toFileNameFrom position t = .ok b := by
  induction fuel generalizing position b with
  | zero =>
      rw [List.length_eq_zero_iff.1 (Nat.le_zero.1 h)]
      exact ⟨[], rfl, rfl⟩
  | succ fuel ih =>
      cases b with
      | nil => exact ⟨[], rfl, rfl⟩
      | cons x rest =>
          rw [Utf8.decodeWith]
          cases hd : Utf8.decodePoint? (x :: rest) with
          | some c =>
              obtain ⟨hs, hb⟩ := Utf8.eq_append_of_decodePoint? hd
              have hl := congrArg List.length hb
              have hp := Utf8.length_encodePoint_pos c
              rw [List.length_append] at hl
              obtain ⟨t, ht, hr⟩ := ih (position + 1)
                (b := (x :: rest).drop (Utf8.encodePoint c).length) (by omega)
              refine ⟨c :: t, by dsimp only; rw [ht]; rfl, ?_⟩
              rw [toFileNameFrom, if_neg (by rw [hs]; exact Bool.false_ne_true), hr]
              exact congrArg Except.ok hb
          | none =>
              have hx : 128 ≤ x.toNat := Nat.le_of_not_lt fun hx => by
                rw [Utf8.decodePoint?_cons_of_lt hx] at hd
                exact nomatch hd
              obtain ⟨hs, hy⟩ := strayByteOf?_strayByte hx
              obtain ⟨t, ht, hr⟩ := ih (position + 1) (b := rest) (Nat.le_of_succ_le_succ h)
              refine ⟨strayByte x :: t, by dsimp only; rw [ht]; rfl, ?_⟩
              rw [toFileNameFrom, if_pos hs, hy, hr]
              rfl

/-- Every file name can be written after it has been read. -/
theorem toFileName_ofFileName (b : Bytes) : toFileName (ofFileName b) = .ok b := by
  obtain ⟨t, ht, hr⟩ := toFileNameFrom_decodeWith b.length 0 (Nat.le_refl b.length)
  rw [ofFileName, ht]
  exact hr

end Text

end ClaimSeal

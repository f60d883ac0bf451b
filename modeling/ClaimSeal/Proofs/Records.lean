import ClaimSeal.Proofs.Canonical

/-!
**The fields of a record are found by their tags.**

A record is written as its fields one after the other, each as a value with a leading byte of its
own.  A field that may be absent leaves nothing behind when it is, not even a mark, so a reader has
to tell by the tag of the next value whether it is there.  This finds every field if no field that
is absent has the tag of one that comes after it.

Main definitions:

* `Der.Part`, `Der.IsSeries` — fields as they are written, and the rules for a series of them;
* `Der.Part.field`, `Der.Part.element?` — what a reader looks for in their place, and what it finds;
* `Der.Readable` — parts can be read as given fields.

Main results:

* `Der.isSeries_iff` — what the rules ask for is what is written;
* `Ber.first?_of_isValue`, `Ber.sequence?_of_isSeries` — values, and all values of a series;
* `Ber.record?_of_isSeries` — **every field of a record is found**.
-/

set_option autoImplicit false

namespace ClaimSeal

namespace Der

open Bytes

/-! ### Parts -/

/-- A part of a record: a leading byte and contents.  Some parts may be left out. -/
inductive Part where
  | always (leading : UInt8) (contents : Bytes)
  | perhaps (leading : UInt8) (contents : Option Bytes)

namespace Part

/-- The leading byte that a part has if it is there. -/
def leading : Part → UInt8
  | always leading _ => leading
  | perhaps leading _ => leading

/-- The contents of a part that is there. -/
def contents? : Part → Option Bytes
  | always _ contents => some contents
  | perhaps _ contents => contents

@[simp] theorem leading_always (leading : UInt8) (contents : Bytes) :
    (always leading contents).leading = leading := rfl

@[simp] theorem leading_perhaps (leading : UInt8) (contents : Option Bytes) :
    (perhaps leading contents).leading = leading := rfl

@[simp] theorem contents?_always (leading : UInt8) (contents : Bytes) :
    (always leading contents).contents? = some contents := rfl

@[simp] theorem contents?_perhaps (leading : UInt8) (contents : Option Bytes) :
    (perhaps leading contents).contents? = contents := rfl

/-- The leading byte and the contents of a part that is there. -/
def value? (p : Part) : Option (UInt8 × Bytes) := p.contents?.map (p.leading, ·)

/-- The field of a reader that a part is meant for. -/
def field : Part → Ber.Field
  | always _ _ => .required
  | perhaps leading _ => .optional (leading.toNat / 64) (leading.toNat % 32)

@[simp] theorem field_always (leading : UInt8) (contents : Bytes) :
    (always leading contents).field = .required := rfl

@[simp] theorem field_perhaps (leading : UInt8) (contents : Option Bytes) :
    (perhaps leading contents).field = .optional (leading.toNat / 64) (leading.toNat % 32) := rfl

/-- What a reader finds in the place of a part. -/
def element? (p : Part) : Option Ber.Element := p.value?.map fun v => .plain v.1 v.2

@[simp] theorem element?_always (leading : UInt8) (contents : Bytes) :
    (always leading contents).element? = some (.plain leading contents) := rfl

@[simp] theorem element?_perhaps (leading : UInt8) (contents : Option Bytes) :
    (perhaps leading contents).element? = contents.map (.plain leading) := by
  cases contents <;> rfl

theorem value?_eq_some_iff {p : Part} {v : UInt8 × Bytes} :
    p.value? = some v ↔ p.leading = v.1 ∧ p.contents? = some v.2 := by
  simp only [value?, Option.map_eq_some_iff, Prod.ext_iff]
  exact ⟨fun ⟨_, h, hleading, hcontents⟩ => ⟨hleading, hcontents ▸ h⟩,
    fun ⟨hleading, h⟩ => ⟨_, h, hleading, rfl⟩⟩

theorem value?_eq_none_iff {p : Part} : p.value? = none ↔ p.contents? = none :=
  Option.map_eq_none_iff

/-- Two parts have the same tag, up to whether their contents are elements. -/
def SharesTag (p q : Part) : Prop :=
  p.leading.toNat / 64 = q.leading.toNat / 64 ∧ p.leading.toNat % 32 = q.leading.toNat % 32

end Part

/-- The parts of a record can be read as the fields that they are meant for: their tag numbers are
short ones, and a part that is left out has another tag than those after it. -/
structure Readable (fields : List Ber.Field) (parts : List Part) : Prop where
  fields : parts.map Part.field = fields
  short : ∀ p ∈ parts, p.leading.toNat % 32 < 31
  apart : parts.Pairwise fun p q => p.contents? = none → ¬ p.SharesTag q

/-! ### Series -/

/-- The rules for a series of parts: they are written one after the other, and one that is left out
is not written at all. -/
inductive IsSeries : List Part → Bytes → Prop
  | nil : IsSeries [] []
  | absent {part : Part} {parts : List Part} {b : Bytes} (h : part.contents? = none)
      (hparts : IsSeries parts b) : IsSeries (part :: parts) b
  | present {part : Part} {parts : List Part} {contents first rest : Bytes}
      (h : part.contents? = some contents) (hfirst : IsValue part.leading contents first)
      (hparts : IsSeries parts rest) : IsSeries (part :: parts) (first ++ rest)

/-- A series is written as the rules ask for, as long as they allow for the lengths. -/
theorem isSeries_iff {parts : List Part} {b : Bytes} :
    IsSeries parts b ↔
      (∀ v ∈ parts.filterMap Part.value?, v.2.length < count 126) ∧
        b = ((parts.filterMap Part.value?).map fun v => encode v.1 v.2).flatten := by
  constructor
  · intro h
    induction h with
    | nil => exact ⟨by simp, rfl⟩
    | absent h _ ih => rwa [List.filterMap_cons_none (Part.value?_eq_none_iff.2 h)]
    | @present part _ contents _ _ h hfirst _ ih =>
        obtain ⟨hroom, rfl⟩ := isValue_iff.1 hfirst
        obtain ⟨hrooms, rfl⟩ := ih
        have hvalue : part.value? = some (part.leading, contents) :=
          Part.value?_eq_some_iff.2 ⟨rfl, h⟩
        rw [List.filterMap_cons_some hvalue]
        exact ⟨List.forall_mem_cons.2 ⟨hroom, hrooms⟩, rfl⟩
  · rintro ⟨hrooms, rfl⟩
    induction parts with
    | nil => exact .nil
    | cons part parts ih =>
        cases hvalue : part.value? with
        | none =>
            rw [List.filterMap_cons_none hvalue] at hrooms ⊢
            exact .absent (Part.value?_eq_none_iff.1 hvalue) (ih hrooms)
        | some v =>
            rw [List.filterMap_cons_some hvalue] at hrooms ⊢
            obtain ⟨hroom, hrooms⟩ := List.forall_mem_cons.1 hrooms
            obtain ⟨hleading, h⟩ := Part.value?_eq_some_iff.1 hvalue
            exact .present h (isValue_iff.2 ⟨hroom, hleading ▸ rfl⟩) (ih hrooms)

end Der

namespace Ber

open Der

/-! ### Reading -/

/-- A value that is written by the rules is read from the front. -/
theorem first?_of_isValue {leading : UInt8} {contents b : Bytes} (h : IsValue leading contents b)
    (hshort : leading.toNat % 32 < 31) : first? b = some (.plain leading contents, []) := by
  obtain ⟨hroom, rfl⟩ := isValue_iff.1 h
  have hfirst := first?_encode ⟨hshort, hroom⟩ []
  rwa [List.append_nil] at hfirst

/-- All values of a series are found. -/
theorem sequence?_of_isSeries {parts : List Part} {b : Bytes} (h : IsSeries parts b)
    (hshort : ∀ p ∈ parts, p.leading.toNat % 32 < 31) :
    (Element.plain 0x30 b).sequence? = some (parts.filterMap Part.element?) := by
  obtain ⟨hrooms, rfl⟩ := isSeries_iff.1 h
  rw [Element.sequence?_encodeSequence, List.map_filterMap]
  · rfl
  · intro v hv
    obtain ⟨p, hp, hvalue⟩ := List.mem_filterMap.1 hv
    obtain ⟨hleading, _⟩ := Part.value?_eq_some_iff.1 hvalue
    exact ⟨hleading ▸ hshort p hp, hrooms v hv⟩

/-- A field that may be absent stays empty if the next element has another tag. -/
theorem assign?_of_absent {cls number : Nat} {fields : List Field} {es : List Element}
    (h : ∀ e ∈ es, ¬ (e.tag.cls = cls ∧ e.tag.number = number)) :
    assign? (.optional cls number :: fields) es = (assign? fields es).map (none :: ·) := by
  cases es with
  | nil => rfl
  | cons e es => rw [assign?, if_neg (h e List.mem_cons_self)]

/-- The elements of a series are dealt out to the fields that its parts are meant for. -/
theorem assign?_filterMap {parts : List Part}
    (h : parts.Pairwise fun p q => p.contents? = none → ¬ p.SharesTag q) :
    assign? (parts.map Part.field) (parts.filterMap Part.element?) =
      some (parts.map Part.element?) := by
  -- induction on the parts: the first one takes the first element, or none
  induction parts with
  | nil => rfl
  | cons part parts ih =>
      obtain ⟨hpart, hparts⟩ := List.pairwise_cons.1 h
      rw [List.map_cons, List.map_cons]
      cases part with
      | always leading contents =>
          rw [List.filterMap_cons_some (Part.element?_always ..), Part.field_always, assign?,
            ih hparts]
          rfl
      | perhaps leading contents =>
          have hfirst := Part.element?_perhaps leading contents
          cases contents with
          | some contents =>
              rw [List.filterMap_cons_some hfirst, Part.field_perhaps, assign?, if_pos ⟨rfl, rfl⟩,
                ih hparts]
              rfl
          | none =>
              -- whatever comes next stands for a later part, which has another tag
              have habsent : ∀ e ∈ parts.filterMap Part.element?,
                  ¬ (e.tag.cls = leading.toNat / 64 ∧ e.tag.number = leading.toNat % 32) := by
                intro e he htag
                obtain ⟨q, hq, helement⟩ := List.mem_filterMap.1 he
                obtain ⟨⟨x, contents⟩, hvalue, rfl⟩ := Option.map_eq_some_iff.1 helement
                obtain ⟨rfl, _⟩ := Part.value?_eq_some_iff.1 hvalue
                exact hpart q hq rfl ⟨htag.1.symm, htag.2.symm⟩
              rw [List.filterMap_cons_none hfirst, Part.field_perhaps, assign?_of_absent habsent,
                ih hparts]
              rfl

/-- **Every field of a record is found**: the contents of those that are there, and that the others
are not. -/
theorem record?_of_isSeries {fields : List Field} {parts : List Part} {b : Bytes}
    (h : IsSeries parts b) (hparts : Readable fields parts) :
    (Element.plain 0x30 b).record? fields = some (parts.map Part.element?) := by
  rw [← hparts.fields, Element.record?, sequence?_of_isSeries h hparts.short]
  exact assign?_filterMap hparts.apart

end Ber

end ClaimSeal

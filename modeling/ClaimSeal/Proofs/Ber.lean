import ClaimSeal.Ber

/-!
**Tagged data is read from the front.**

An element is read from its own bytes.  What follows it is handed on as it is and does not matter,
so an element that is cut off is none: no part of a response, except all of it, can be taken for a
response.

Main definitions:

* `Ber.Takes` — a reader takes its bytes from the front and looks no further.

Main results:

* `Ber.takes_first?` — reading an element;
* `Ber.first?_take_eq_none` — **an element that is cut off cannot be read**.
-/

set_option autoImplicit false

namespace ClaimSeal

namespace Ber

variable {α β : Type}

/-- What is read comes from the front of the input, from `least` bytes or more, and is the same
whatever follows them. -/
def Takes (least : Nat) (r : Bytes → Option (α × Bytes)) : Prop :=
  ∀ b a rest, r b = some (a, rest) →
    ∃ front, least ≤ front.length ∧ b = front ++ rest ∧ ∀ more, r (front ++ more) = some (a, more)

/-! ### One reader after another -/

theorem takes_bind {m n : Nat} {r : Bytes → Option (α × Bytes)}
    {f : α → Bytes → Option (β × Bytes)} (hr : Takes m r) (hf : ∀ a, Takes n (f a)) :
    Takes (m + n) fun b => (r b).bind fun p => f p.1 p.2 := by
  intro b x rest h
  obtain ⟨⟨a, mid⟩, hra, hfa⟩ := Option.bind_eq_some_iff.1 h
  obtain ⟨front, hm, rfl, hfront⟩ := hr b a mid hra
  obtain ⟨front', hn, rfl, hfront'⟩ := hf a mid x rest hfa
  refine ⟨front ++ front', ?_, (List.append_assoc ..).symm, fun more => ?_⟩
  · rw [List.length_append]
    omega
  · rw [List.append_assoc]
    simp only [hfront, Option.bind_some, hfront']

theorem takes_pure (a : α) : Takes 0 fun b => some (a, b) := by
  intro b x rest h
  cases h
  exact ⟨[], Nat.le_refl 0, rfl, fun more => rfl⟩

theorem takes_fail : Takes 0 fun _ => (none : Option (α × Bytes)) := by
  intro b x rest h
  cases h

/-- Whatever depends on the byte in front takes that byte as well. -/
theorem takes_cons {n : Nat} {r : Bytes → Option (α × Bytes)}
    {f : UInt8 → Bytes → Option (α × Bytes)}
    (hnil : r [] = none) (hcons : ∀ x b, r (x :: b) = f x b) (hf : ∀ x, Takes n (f x)) :
    Takes (n + 1) r := by
  intro b a rest h
  cases b with
  | nil =>
      rw [hnil] at h
      cases h
  | cons x b =>
      rw [hcons] at h
      obtain ⟨front, hn, rfl, hfront⟩ := hf x b a rest h
      refine ⟨x :: front, by simpa using hn, rfl, fun more => ?_⟩
      rw [List.cons_append, hcons, hfront]

/-- As many bytes as are asked for. -/
theorem takes_some (size : Nat) (f : Bytes → α) :
    Takes 0 fun b => if size ≤ b.length then some (f (b.take size), b.drop size) else none := by
  intro b a rest h
  obtain ⟨hsize, h⟩ := Option.ite_none_right_eq_some.1 h
  cases h
  refine ⟨b.take size, Nat.zero_le _, (List.take_append_drop ..).symm, fun more => ?_⟩
  have hlength : (b.take size).length = size := List.length_take_of_le hsize
  have hle : size ≤ (b.take size ++ more).length := by
    rw [List.length_append]
    omega
  simp only [if_pos hle, List.take_left' hlength, List.drop_left' hlength]

/-! ### Tags and lengths -/

theorem takes_longNumber? (n : Nat) : Takes 0 (longNumber? n) := by
  intro b
  induction b generalizing n with
  | nil =>
      intro a rest h
      cases h
  | cons x b ih =>
      intro a rest h
      rw [longNumber?] at h
      split at h
      · cases h
      · next hfirst =>
          split at h
          · next hlast =>
              cases h
              refine ⟨[x], Nat.zero_le _, rfl, fun more => ?_⟩
              rw [List.cons_append, List.nil_append, longNumber?, if_neg hfirst]
              simp only [if_pos hlast]
          · next hlast =>
              obtain ⟨front, _, rfl, hfront⟩ := ih _ _ _ h
              refine ⟨x :: front, Nat.zero_le _, rfl, fun more => ?_⟩
              rw [List.cons_append, longNumber?, if_neg hfirst]
              simp only [if_neg hlast, hfront]

theorem takes_tag? : Takes 1 tag? := by
  refine takes_cons rfl (fun _ _ => rfl) fun x => ?_
  simp only [tag?]
  split
  · exact takes_pure _
  · refine takes_bind (n := 0) (f := fun number b => if number < 31 then none else
      some ((⟨x.toNat / 64, x.toNat / 32 % 2 = 1, number⟩ : Tag), b)) (takes_longNumber? 0)
      fun number => ?_
    split
    · exact takes_fail
    · exact takes_pure _

theorem takes_length? : Takes 1 length? := by
  refine takes_cons rfl (fun _ _ => rfl) fun x => ?_
  simp only [length?]
  split
  · exact takes_pure _
  · split
    · exact takes_pure _
    · exact takes_some _ fun b => some (Bytes.toNat b)

/-! ### Elements -/

theorem afterEnd?_of_ne {skip : Bytes → Option Bytes} {b : Bytes} (h : ∀ rest, b ≠ 0 :: 0 :: rest)
    (fuel : Nat) : afterEnd? skip (fuel + 1) b = (skip b).bind (afterEnd? skip fuel) := by
  rw [afterEnd?]
  exact h

/-- Elements up to an end marker are told by their own bytes, whose number is fuel enough. -/
theorem afterEnd?_eq_some {skip : Bytes → Option (α × Bytes)} (hskip : Takes 2 skip) {fuel : Nat}
    {b rest : Bytes} (h : afterEnd? (fun b => (skip b).map Prod.snd) fuel b = some rest) :
    ∃ front, 2 ≤ front.length ∧ b = front ++ rest ∧ ∀ more fuel', front.length ≤ fuel' →
      afterEnd? (fun b => (skip b).map Prod.snd) fuel' (front ++ more) = some more := by
  induction fuel generalizing b with
  | zero => cases h
  | succ fuel ih =>
      by_cases hend : ∃ rest, b = 0 :: 0 :: rest
      · obtain ⟨_, rfl⟩ := hend
        cases h
        refine ⟨[0, 0], Nat.le_refl 2, rfl, fun more fuel' hfuel' => ?_⟩
        obtain ⟨fuel', rfl⟩ := Nat.exists_eq_add_of_le' (Nat.le_trans (Nat.le_succ 1) hfuel')
        rfl
      · rw [afterEnd?_of_ne fun rest heq => hend ⟨rest, heq⟩] at h
        obtain ⟨mid, hmid, hend'⟩ := Option.bind_eq_some_iff.1 h
        obtain ⟨⟨a, _⟩, hread, rfl⟩ := Option.map_eq_some_iff.1 hmid
        obtain ⟨front, hlength, rfl, hfront⟩ := hskip _ _ _ hread
        obtain ⟨front', _, rfl, hfront'⟩ := ih hend'
        refine ⟨front ++ front', ?_, (List.append_assoc ..).symm, fun more fuel' hfuel' => ?_⟩
        · rw [List.length_append]
          omega
        · rw [List.length_append] at hfuel'
          obtain ⟨fuel', rfl⟩ := Nat.exists_eq_add_of_le' (show 1 ≤ fuel' by omega)
          -- no end marker stands in front, as those bytes belong to the first element
          have hne : ∀ rest', front ++ (front' ++ more) ≠ 0 :: 0 :: rest' := by
            intro rest' heq
            match front, hlength with
            | x :: y :: front, _ =>
                cases heq
                exact hend ⟨_, rfl⟩
          rw [List.append_assoc, afterEnd?_of_ne hne, hfront]
          exact hfront' more fuel' (by omega)

/-- What stands behind a tag and a length. -/
def contents? (depth : Nat) (tag : Tag) : Option Nat → Bytes → Option (Element × Bytes)
  | some n, b => if n ≤ b.length then some (⟨tag, false, b.take n⟩, b.drop n) else none
  | none, b =>
      if tag.constructed then
        (afterEnd? (fun x => (firstWithin? depth x).map Prod.snd) (b.length + 1) b).bind fun rest =>
          some (⟨tag, true, b.take (b.length - rest.length - 2)⟩, rest)
      else none

theorem firstWithin?_succ (depth : Nat) (b : Bytes) :
    firstWithin? (depth + 1) b =
      (tag? b).bind fun p => (length? p.2).bind fun q => contents? depth p.1 q.1 q.2 := by
  rw [firstWithin?]
  refine Option.bind_congr fun p _ => Option.bind_congr fun q _ => ?_
  obtain ⟨length, b⟩ := q
  cases length <;> rfl

theorem takes_contents? {depth : Nat} (hdepth : Takes 2 (firstWithin? depth)) (tag : Tag)
    (length : Option Nat) : Takes 0 (contents? depth tag length) := by
  cases length with
  | some n => exact takes_some n fun contents => (⟨tag, false, contents⟩ : Element)
  | none =>
      intro b a rest h
      obtain ⟨hconstructed, h⟩ := Option.ite_none_right_eq_some.1 h
      obtain ⟨rest', hend, h⟩ := Option.bind_eq_some_iff.1 h
      cases h
      obtain ⟨front, hlength, rfl, hfront⟩ := afterEnd?_eq_some hdepth hend
      refine ⟨front, Nat.zero_le _, rfl, fun more => ?_⟩
      have hmore := hfront more ((front ++ more).length + 1) (by simp; omega)
      have htake : ∀ rest : Bytes, (front ++ rest).take ((front ++ rest).length - rest.length - 2) =
          front.take (front.length - 2) := by
        intro rest
        rw [List.length_append, Nat.add_sub_cancel, List.take_append_of_le_length (Nat.sub_le ..)]
      rw [contents?, if_pos hconstructed, hmore, Option.bind_some, htake, htake]

theorem takes_firstWithin? (depth : Nat) : Takes 2 (firstWithin? depth) := by
  -- induction on the depth: what stands in an open element is nested one level deeper
  induction depth with
  | zero =>
      intro b a rest h
      cases h
  | succ depth ih =>
      rw [funext (firstWithin?_succ depth)]
      refine takes_bind (n := 1) (f := fun tag b => (length? b).bind fun q =>
        contents? depth tag q.1 q.2) takes_tag? fun tag => ?_
      exact takes_bind takes_length? fun length => takes_contents? ih tag length

theorem takes_first? : Takes 2 first? := takes_firstWithin? 11

/-- An element that is cut off cannot be read. -/
theorem first?_take_eq_none {b rest : Bytes} {e : Element} (h : first? b = some (e, rest)) {n : Nat}
    (hn : n + rest.length < b.length) : first? (b.take n) = none := by
  cases hcut : first? (b.take n) with
  | none => rfl
  | some read =>
      -- what could be read would be read from the whole as well, with more behind it
      obtain ⟨front, _, hfront, hmore⟩ := takes_first? _ _ _ hcut
      have hwhole : first? b = some (read.1, read.2 ++ b.drop n) := by
        rw [← hmore, ← List.append_assoc, ← hfront, List.take_append_drop]
      rw [h] at hwhole
      cases hwhole
      simp only [List.length_append, List.length_drop] at hn
      omega

end Ber

end ClaimSeal

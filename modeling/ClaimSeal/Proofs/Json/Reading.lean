import ClaimSeal.Proofs.Json.Literals
import ClaimSeal.Proofs.Json.Strings

/-!
**Values are read back.**

A value that is written in a layout that only adds white space reads back, with the surrogate pairs
in its strings joined and with the members of its objects put together by their names.  The proof
goes over the value with one rule for each constructor; the reader's fuel is the length of the text.
Floating-point numbers are left out.

Main definitions:

* `Json.Layout.Spaced` — a layout that adds white space;
* `Json.asRead` — a value as it reads back;
* `Json.IsExact` — a value without floating-point numbers.

Main results:

* `Json.isAscii_render` — the text of a value is ASCII;
* `Json.value?_render` — a value is read back in front of other text;
* `Json.parse?_indented`, `Json.parse?_compact` — **a value is read back**.
-/

set_option autoImplicit false

namespace ClaimSeal

namespace Json

/-! ### Values as they read back -/

mutual

/-- A value as it reads back. -/
def asRead : Json → Json
  | .str t => .str t.joined
  | .arr items => .arr (itemsAsRead items)
  | .obj members => .obj (membersAsRead [] members)
  | other => other

/-- Items as they read back. -/
def itemsAsRead : List Json → List Json
  | [] => []
  | item :: rest => item.asRead :: itemsAsRead rest

/-- Members as they read back after those in `acc`. -/
def membersAsRead (acc : List (Text × Json)) : List (Text × Json) → List (Text × Json)
  | [] => acc
  | (name, value) :: rest => membersAsRead (putMember name.joined value.asRead acc) rest

end

theorem putMember_of_not_mem {name : Text} {acc : List (Text × Json)}
    (h : name ∉ acc.map Prod.fst) (v : Json) : putMember name v acc = acc ++ [(name, v)] := by
  have hany : acc.any (fun m => m.1 == name) = false := by
    rw [List.any_eq_false]
    intro m hm he
    exact h (eq_of_beq he ▸ List.mem_map_of_mem hm)
  rw [putMember, hany]
  rfl

/-- Members with different names stay what they are. -/
theorem membersAsRead_of_nodup {acc members : List (Text × Json)}
    (h : (acc.map Prod.fst ++ members.map fun m => m.1.joined).Nodup) :
    membersAsRead acc members = acc ++ members.map fun m => (m.1.joined, m.2.asRead) := by
  induction members generalizing acc with
  | nil => exact (List.append_nil acc).symm
  | cons m rest ih =>
      obtain ⟨name, value⟩ := m
      have hname : name.joined ∉ acc.map Prod.fst := fun hmem =>
        (List.nodup_append.1 h).2.2 _ hmem _ List.mem_cons_self rfl
      have hrest : membersAsRead (acc ++ [(name.joined, value.asRead)]) rest = _ :=
        ih (by simpa using h)
      rw [membersAsRead, putMember_of_not_mem hname, hrest, List.append_assoc]
      rfl

/-- A value without floating-point numbers. -/
inductive IsExact : Json → Prop
  | null : IsExact .null
  | bool (b : Bool) : IsExact (.bool b)
  | int (i : Int) : IsExact (.int i)
  | str (t : Text) : IsExact (.str t)
  | arr {items : List Json} (h : ∀ v ∈ items, IsExact v) : IsExact (.arr items)
  | obj {members : List (Text × Json)} (h : ∀ m ∈ members, IsExact m.2) : IsExact (.obj members)

/-! ### White space -/

/-- A text of white space. -/
def IsBlank (t : Text) : Prop := ∀ c ∈ t, isBlank c = true

theorem skipBlank_append {s : Text} (hs : IsBlank s) (t : Text) :
    skipBlank (s ++ t) = skipBlank t := List.dropWhile_append_of_pos hs

theorem skipBlank_cons {c : CodePoint} (h : isBlank c = false) (t : Text) :
    skipBlank (c :: t) = c :: t := List.dropWhile_cons_of_neg (by simp [h])

theorem eq_of_isBlank {c : CodePoint} (h : isBlank c = true) :
    c = cp ' ' ∨ c = cp '\t' ∨ c = cp '\n' ∨ c = cp '\r' := by
  simpa only [isBlank, Bool.or_eq_true, decide_eq_true_eq, or_assoc] using h

theorem IsBlank.isAscii {t : Text} (h : IsBlank t) : Text.IsAscii t := by
  intro c hc
  rcases eq_of_isBlank (h c hc) with rfl | rfl | rfl | rfl <;> decide

/-- A layout that adds white space to the marks. -/
structure Layout.Spaced (l : Layout) : Prop where
  opening : ∀ depth, IsBlank (l.opening depth)
  between : ∀ depth, ∃ s, l.between depth = cp ',' :: s ∧ IsBlank s
  closing : ∀ depth, IsBlank (l.closing depth)
  colon : ∃ s, l.colon = cp ':' :: s ∧ IsBlank s

theorem isBlank_lineAt (depth : Nat) : IsBlank (lineAt depth) := by
  intro c hc
  rcases List.mem_cons.1 hc with rfl | hc
  · decide
  · rw [List.eq_of_mem_replicate hc]
    decide

theorem Layout.spaced_indented : Layout.indented.Spaced where
  opening depth := isBlank_lineAt (depth + 1)
  between depth := ⟨_, rfl, isBlank_lineAt (depth + 1)⟩
  closing depth := isBlank_lineAt depth
  colon := ⟨_, rfl, List.forall_mem_singleton.2 (by decide)⟩

theorem Layout.spaced_compact : Layout.compact.Spaced where
  opening _ := nofun
  between _ := ⟨[], rfl, nofun⟩
  closing _ := nofun
  colon := ⟨[], rfl, nofun⟩

/-- A number does not go on with white space. -/
theorem stops_append {s t : Text} (hs : IsBlank s) (ht : Stops t) : Stops (s ++ t) := by
  cases s with
  | nil => exact ht
  | cons c s =>
      rw [List.cons_append, stops_cons]
      rcases eq_of_isBlank (hs c List.mem_cons_self) with rfl | rfl | rfl | rfl <;> decide

variable {l : Layout}

/-! ### The first code point of a value -/

/-- A text starts like a value: with no white space, and with no bracket that closes a list. -/
def StartsValue (t : Text) : Prop :=
  ∃ c rest, t = c :: rest ∧ isBlank c = false ∧ c ≠ cp ']'

theorem isBlank_of_isAsciiDigit {c : CodePoint} (h : c.isAsciiDigit = true) :
    isBlank c = false := by
  rw [Bool.eq_false_iff]
  intro hb
  rcases eq_of_isBlank hb with rfl | rfl | rfl | rfl <;> revert h <;> decide

theorem startsValue_ofInt (i : Int) : StartsValue (Text.ofInt i) := by
  obtain ⟨c, rest, hi, hc | rfl⟩ := Text.ofInt_eq_cons i
  · exact ⟨c, rest, hi, isBlank_of_isAsciiDigit hc, ne_of_isAsciiDigit hc (by decide)⟩
  · exact ⟨_, rest, hi, by decide, by decide⟩

theorem startsValue_render (l : Layout) (depth : Nat) {v : Json} (hv : v.IsExact) :
    StartsValue (render l depth v) := by
  cases hv with
  | null => exact ⟨_, _, rfl, by decide, by decide⟩
  | bool b => cases b <;> exact ⟨_, _, rfl, by decide, by decide⟩
  | int i => exact startsValue_ofInt i
  | str t => exact ⟨_, _, rfl, by decide, by decide⟩
  | @arr items h =>
      cases items with
      | nil => exact ⟨_, _, rfl, by decide, by decide⟩
      | cons item rest => exact ⟨_, _, rfl, by decide, by decide⟩
  | @obj members h =>
      cases members with
      | nil => exact ⟨_, _, rfl, by decide, by decide⟩
      | cons m rest => exact ⟨_, _, rfl, by decide, by decide⟩

theorem StartsValue.skipBlank_append {t : Text} (h : StartsValue t) (rest : Text) :
    skipBlank (t ++ rest) = t ++ rest := by
  obtain ⟨c, others, rfl, hc, _⟩ := h
  exact skipBlank_cons hc _

/-! ### Steps of the reader -/

theorem value?_literal {c : CodePoint} (hquote : c ≠ cp '"') (hbracket : c ≠ cp '[')
    (hbrace : c ≠ cp '\x7b') (fuel : Nat) (t : Text) :
    value? (fuel + 1) (c :: t) = literal? (c :: t) := by
  rw [value?, if_neg hquote, if_neg hbracket, if_neg hbrace]

theorem value?_quote (fuel : Nat) (t rest : Text) :
    value? (fuel + 1) (quote t ++ rest) = some (.str t.joined, rest) := by
  rw [quote, List.cons_append, List.cons_append, List.append_assoc, List.singleton_append, value?,
    if_pos rfl, string?_quote]
  rfl

/-- An item that the closing bracket follows is the last. -/
theorem items?_last {fuel : Nat} {t rest tail : Text} {item : Json}
    (hitem : value? fuel t = some (item, rest)) (hrest : skipBlank rest = cp ']' :: tail) :
    items? (fuel + 1) t = some ([item], tail) := by
  rw [items?, hitem, Option.bind_eq_bind, Option.bind_some]
  dsimp only
  rw [hrest]
  dsimp only
  rw [if_pos rfl]
  rfl

/-- After a comma the items go on. -/
theorem items?_more {fuel : Nat} {t rest tail after : Text} {item : Json} {others : List Json}
    (hitem : value? fuel t = some (item, rest)) (hrest : skipBlank rest = cp ',' :: tail)
    (hothers : items? fuel (skipBlank tail) = some (others, after)) :
    items? (fuel + 1) t = some (item :: others, after) := by
  rw [items?, hitem, Option.bind_eq_bind, Option.bind_some]
  dsimp only
  rw [hrest]
  dsimp only
  rw [if_neg (by decide), if_pos rfl, hothers]
  rfl

/-- A member is read up to what follows its value. -/
theorem members?_succ (hl : l.Spaced) {fuel : Nat} {acc : List (Text × Json)} {name t rest : Text}
    {v : Json} (ht : StartsValue t) (hvalue : value? fuel (t ++ rest) = some (v, rest)) :
    members? (fuel + 1) acc (quote name ++ (l.colon ++ (t ++ rest))) =
      match skipBlank rest with
      | [] => none
      | c :: tail =>
          if c = cp '\x7d' then some (putMember name.joined v acc, tail)
          else if c = cp ',' then members? fuel (putMember name.joined v acc) (skipBlank tail)
          else none := by
  obtain ⟨s, hcolon, hs⟩ := hl.colon
  have hname := string?_quote name (l.colon ++ (t ++ rest))
  have hskip : skipBlank (l.colon ++ (t ++ rest)) = cp ':' :: (s ++ (t ++ rest)) := by
    rw [hcolon]
    exact skipBlank_cons (by decide) _
  have hafter : after? (txt ":") (cp ':' :: (s ++ (t ++ rest))) = some (s ++ (t ++ rest)) :=
    after?_append (txt ":") _
  rw [quote, List.cons_append, List.cons_append, List.append_assoc, List.singleton_append, members?,
    if_neg (by decide), hname]
  simp only [Option.bind_eq_bind, Option.bind_some]
  rw [hskip, hafter, Option.bind_some, skipBlank_append hs, ht.skipBlank_append, hvalue,
    Option.bind_some]
  rfl

/-! ### One rule for each constructor -/

/-- A value is read back in front of other text, as far as a number does not go on there. -/
def Reads (l : Layout) (v : Json) : Prop :=
  ∀ depth fuel rest, (render l depth v).length ≤ fuel → Stops rest →
    value? fuel (render l depth v ++ rest) = some (v.asRead, rest)

/-- What starts with none of the marks is read as a literal. -/
theorem value?_of_literal? {t rest : Text} {v : Json} {fuel : Nat}
    (ht : ∃ c others, t = c :: others ∧ c ≠ cp '"' ∧ c ≠ cp '[' ∧ c ≠ cp '\x7b')
    (hfuel : t.length ≤ fuel) (h : literal? (t ++ rest) = some (v, rest)) :
    value? fuel (t ++ rest) = some (v, rest) := by
  obtain ⟨c, others, rfl, hquote, hbracket, hbrace⟩ := ht
  cases fuel with
  | zero => cases hfuel
  | succ fuel =>
      rw [List.cons_append] at h ⊢
      rw [value?_literal hquote hbracket hbrace, h]

theorem reads_null : Reads l .null := by
  intro depth fuel rest hfuel _
  exact value?_of_literal? ⟨_, _, rfl, by decide, by decide, by decide⟩ hfuel (literal?_null rest)

theorem reads_bool (b : Bool) : Reads l (.bool b) := by
  intro depth fuel rest hfuel _
  refine value?_of_literal? ?_ hfuel (literal?_bool b rest)
  cases b <;> exact ⟨_, _, rfl, by decide, by decide, by decide⟩

theorem reads_int (i : Int) : Reads l (.int i) := by
  intro depth fuel rest hfuel hstops
  refine value?_of_literal? ?_ hfuel (literal?_ofInt i hstops)
  obtain ⟨c, others, hi, hc | rfl⟩ := Text.ofInt_eq_cons i
  · exact ⟨c, others, hi, ne_of_isAsciiDigit hc (by decide), ne_of_isAsciiDigit hc (by decide),
      ne_of_isAsciiDigit hc (by decide)⟩
  · exact ⟨_, others, hi, by decide, by decide, by decide⟩

theorem reads_str (t : Text) : Reads l (.str t) := by
  intro depth fuel rest hfuel _
  cases fuel with
  | zero => cases hfuel
  | succ fuel => exact value?_quote fuel t rest

/-- Items are read back up to the closing bracket. -/
theorem items?_render (hl : l.Spaced) (depth : Nat) {item : Json} {others : List Json}
    (hexact : ∀ v ∈ item :: others, v.IsExact) (hreads : ∀ v ∈ item :: others, Reads l v)
    {fuel : Nat}
    (hfuel : (render l (depth + 1) item ++ renderItems l depth others).length < fuel)
    (rest : Text) :
    items? fuel (render l (depth + 1) item ++
        (renderItems l depth others ++ (l.closing depth ++ cp ']' :: rest))) =
      some (itemsAsRead (item :: others), rest) := by
  induction others generalizing item fuel with
  | nil =>
      obtain ⟨fuel, rfl⟩ : ∃ k, fuel = k + 1 := ⟨fuel - 1, by omega⟩
      rw [List.length_append] at hfuel
      have hstops : Stops (l.closing depth ++ cp ']' :: rest) :=
        stops_append (hl.closing depth) (stops_cons.2 (by decide))
      have hitem := hreads item List.mem_cons_self (depth + 1) fuel _ (by omega) hstops
      refine items?_last hitem ?_
      exact (skipBlank_append (hl.closing depth) _).trans (skipBlank_cons (by decide) _)
  | cons next others ih =>
      obtain ⟨fuel, rfl⟩ : ∃ k, fuel = k + 1 := ⟨fuel - 1, by omega⟩
      obtain ⟨s, hbetween, hs⟩ := hl.between depth
      obtain ⟨hexactItem, hexact⟩ := List.forall_mem_cons.1 hexact
      obtain ⟨hreadsItem, hreads⟩ := List.forall_mem_cons.1 hreads
      have hrender (tail : Text) : renderItems l depth (next :: others) ++ tail =
          cp ',' :: (s ++ (render l (depth + 1) next ++ (renderItems l depth others ++ tail))) := by
        rw [renderItems, hbetween]
        simp only [List.cons_append, List.append_assoc]
      have hlength := congrArg List.length (hrender [])
      simp only [List.length_cons, List.length_append, List.append_nil] at hlength hfuel
      have hitem := hreadsItem (depth + 1) fuel
        (renderItems l depth (next :: others) ++ (l.closing depth ++ cp ']' :: rest)) (by omega)
        (by rw [hrender]; exact stops_cons.2 (by decide))
      rw [hrender] at hitem ⊢
      refine items?_more hitem (skipBlank_cons (by decide) _) ?_
      rw [skipBlank_append hs,
        (startsValue_render l (depth + 1) (hexact next List.mem_cons_self)).skipBlank_append]
      exact ih hexact hreads (by rw [List.length_append]; omega)

/-- Items that are read back make a list that is. -/
theorem reads_arr (hl : l.Spaced) {items : List Json} (hexact : ∀ v ∈ items, v.IsExact)
    (hreads : ∀ v ∈ items, Reads l v) : Reads l (.arr items) := by
  intro depth fuel rest hfuel _
  cases items with
  | nil =>
      cases fuel with
      | zero => cases hfuel
      | succ fuel => rfl
  | cons item others =>
      have hrender (tail : Text) : render l depth (.arr (item :: others)) ++ tail =
          cp '[' :: (l.opening depth ++ (render l (depth + 1) item ++
            (renderItems l depth others ++ (l.closing depth ++ cp ']' :: tail)))) := by
        rw [render]
        simp only [List.cons_append, List.append_assoc, List.nil_append]
      have hlength := congrArg List.length (hrender [])
      simp only [List.length_cons, List.length_append, List.append_nil] at hlength
      obtain ⟨fuel, rfl⟩ : ∃ k, fuel = k + 1 := ⟨fuel - 1, by omega⟩
      have hroom : (render l (depth + 1) item ++ renderItems l depth others).length < fuel := by
        rw [List.length_append]
        omega
      have hitems := items?_render hl depth hexact hreads hroom rest
      obtain ⟨c, t, hstart, hc, hclosing⟩ :=
        startsValue_render l (depth + 1) (hexact item List.mem_cons_self)
      rw [hrender, value?, if_neg (by decide), if_pos rfl, skipBlank_append (hl.opening depth)]
      rw [hstart, List.cons_append] at hitems ⊢
      rw [skipBlank_cons hc]
      dsimp only
      rw [if_neg hclosing, hitems]
      rfl

/-- Members are read back up to the closing brace. -/
theorem members?_render (hl : l.Spaced) (depth : Nat) {name : Text} {value : Json}
    {others : List (Text × Json)} (hexact : ∀ m ∈ (name, value) :: others, m.2.IsExact)
    (hreads : ∀ m ∈ (name, value) :: others, Reads l m.2) {fuel : Nat}
    (hfuel : (render l (depth + 1) value ++ renderMembers l depth others).length < fuel)
    (acc : List (Text × Json)) (rest : Text) :
    members? fuel acc (quote name ++ (l.colon ++ (render l (depth + 1) value ++
        (renderMembers l depth others ++ (l.closing depth ++ cp '\x7d' :: rest))))) =
      some (membersAsRead acc ((name, value) :: others), rest) := by
  induction others generalizing name value acc fuel with
  | nil =>
      obtain ⟨fuel, rfl⟩ : ∃ k, fuel = k + 1 := ⟨fuel - 1, by omega⟩
      rw [List.length_append] at hfuel
      have hstops : Stops (l.closing depth ++ cp '\x7d' :: rest) :=
        stops_append (hl.closing depth) (stops_cons.2 (by decide))
      have hreadsValue : Reads l value := hreads _ List.mem_cons_self
      have hvalue := hreadsValue (depth + 1) fuel _ (by omega) hstops
      have hstart := startsValue_render l (depth + 1) (hexact _ List.mem_cons_self)
      rw [renderMembers, List.nil_append, members?_succ hl hstart hvalue,
        skipBlank_append (hl.closing depth), skipBlank_cons (by decide)]
      rfl
  | cons next others ih =>
      obtain ⟨name', value'⟩ := next
      obtain ⟨fuel, rfl⟩ : ∃ k, fuel = k + 1 := ⟨fuel - 1, by omega⟩
      obtain ⟨s, hbetween, hs⟩ := hl.between depth
      have hexactValue : value.IsExact := hexact _ List.mem_cons_self
      have hreadsValue : Reads l value := hreads _ List.mem_cons_self
      have hrender (tail : Text) : renderMembers l depth ((name', value') :: others) ++ tail =
          cp ',' :: (s ++ (quote name' ++ (l.colon ++ (render l (depth + 1) value' ++
            (renderMembers l depth others ++ tail))))) := by
        rw [renderMembers, hbetween]
        simp only [List.cons_append, List.append_assoc]
      have hlength := congrArg List.length (hrender [])
      simp only [List.length_cons, List.length_append, List.append_nil] at hlength hfuel
      have hvalue := hreadsValue (depth + 1) fuel (renderMembers l depth ((name', value') :: others)
        ++ (l.closing depth ++ cp '\x7d' :: rest)) (by omega)
        (by rw [hrender]; exact stops_cons.2 (by decide))
      have hquote : StartsValue (quote name') := ⟨_, _, rfl, by decide, by decide⟩
      rw [members?_succ hl (startsValue_render l (depth + 1) hexactValue) hvalue, hrender,
        skipBlank_cons (by decide)]
      dsimp only
      rw [if_neg (by decide), if_pos rfl, skipBlank_append hs, hquote.skipBlank_append]
      exact ih (List.forall_mem_cons.1 hexact).2 (List.forall_mem_cons.1 hreads).2
        (by rw [List.length_append]; omega) _

/-- Members whose values are read back make an object that is. -/
theorem reads_obj (hl : l.Spaced) {members : List (Text × Json)}
    (hexact : ∀ m ∈ members, m.2.IsExact) (hreads : ∀ m ∈ members, Reads l m.2) :
    Reads l (.obj members) := by
  intro depth fuel rest hfuel _
  cases members with
  | nil =>
      cases fuel with
      | zero => cases hfuel
      | succ fuel => rfl
  | cons m others =>
      obtain ⟨name, value⟩ := m
      have hrender (tail : Text) : render l depth (.obj ((name, value) :: others)) ++ tail =
          cp '\x7b' :: (l.opening depth ++ (quote name ++ (l.colon ++ (render l (depth + 1) value ++
            (renderMembers l depth others ++ (l.closing depth ++ cp '\x7d' :: tail)))))) := by
        rw [render]
        simp only [List.cons_append, List.append_assoc, List.nil_append]
      have hlength := congrArg List.length (hrender [])
      simp only [List.length_cons, List.length_append, List.append_nil] at hlength
      obtain ⟨fuel, rfl⟩ : ∃ k, fuel = k + 1 := ⟨fuel - 1, by omega⟩
      have hroom : (render l (depth + 1) value ++ renderMembers l depth others).length < fuel := by
        rw [List.length_append]
        omega
      have hmembers := members?_render hl depth hexact hreads hroom [] rest
      rw [hrender, value?, if_neg (by decide), if_neg (by decide), if_pos rfl,
        skipBlank_append (hl.opening depth)]
      rw [quote, List.cons_append, List.cons_append] at hmembers ⊢
      rw [skipBlank_cons (by decide)]
      dsimp only
      rw [if_neg (by decide), hmembers]
      rfl

/-! ### Values -/

/-- **A value is read back in front of other text.** -/
theorem value?_render (hl : l.Spaced) {v : Json} (hv : v.IsExact) : Reads l v := by
  induction hv with
  | null => exact reads_null
  | bool b => exact reads_bool b
  | int i => exact reads_int i
  | str t => exact reads_str t
  | arr h ih => exact reads_arr hl h ih
  | obj h ih => exact reads_obj hl h ih

theorem parse?_render (hl : l.Spaced) {v : Json} (hv : v.IsExact) :
    parse? (render l 0 v) = some v.asRead := by
  have hread := value?_render hl hv 0 ((render l 0 v).length + 1) [] (Nat.le_succ _) stops_nil
  have hskip := (startsValue_render l 0 hv).skipBlank_append []
  rw [List.append_nil] at hread hskip
  rw [parse?, hskip, hread]
  rfl

/-- **A value on lines of its own is read back.** -/
theorem parse?_indented {v : Json} (hv : v.IsExact) : parse? v.indented = some v.asRead :=
  parse?_render Layout.spaced_indented hv

/-- **A value on one line is read back.** -/
theorem parse?_compact {v : Json} (hv : v.IsExact) : parse? v.compact = some v.asRead :=
  parse?_render Layout.spaced_compact hv

/-! ### ASCII -/

theorem isAscii_scalar {v : Json} (hv : v.IsExact) : Text.IsAscii (scalar v) := by
  cases hv with
  | null => exact (by decide : Text.IsAscii (txt "null"))
  | bool b =>
      cases b with
      | true => exact (by decide : Text.IsAscii (txt "true"))
      | false => exact (by decide : Text.IsAscii (txt "false"))
  | int i => exact Text.isAscii_ofInt i
  | str t => exact isAscii_quote t
  | arr => exact (by decide : Text.IsAscii (txt "[]"))
  | obj => exact (by decide : Text.IsAscii (txt "\x7b\x7d"))

theorem isAscii_renderItems (hl : l.Spaced) (depth : Nat) {items : List Json}
    (h : ∀ v ∈ items, Text.IsAscii (render l (depth + 1) v)) :
    Text.IsAscii (renderItems l depth items) := by
  obtain ⟨s, hbetween, hs⟩ := hl.between depth
  induction items with
  | nil => exact Text.isAscii_nil
  | cons item rest ih =>
      obtain ⟨hitem, h⟩ := List.forall_mem_cons.1 h
      rw [renderItems, hbetween]
      simp only [Text.isAscii_append, Text.isAscii_cons, and_assoc]
      exact ⟨by decide, hs.isAscii, hitem, ih h⟩

theorem isAscii_renderMembers (hl : l.Spaced) (depth : Nat) {members : List (Text × Json)}
    (h : ∀ m ∈ members, Text.IsAscii (render l (depth + 1) m.2)) :
    Text.IsAscii (renderMembers l depth members) := by
  obtain ⟨s, hbetween, hs⟩ := hl.between depth
  obtain ⟨s', hcolon, hs'⟩ := hl.colon
  induction members with
  | nil => exact Text.isAscii_nil
  | cons m rest ih =>
      obtain ⟨name, value⟩ := m
      obtain ⟨hvalue, h⟩ := List.forall_mem_cons.1 h
      rw [renderMembers, hbetween, hcolon]
      simp only [Text.isAscii_append, Text.isAscii_cons, and_assoc]
      exact ⟨by decide, hs.isAscii, isAscii_quote name, by decide, hs'.isAscii, hvalue, ih h⟩

/-- **The text of a value is ASCII.** -/
theorem isAscii_render (hl : l.Spaced) {v : Json} (hv : v.IsExact) (depth : Nat) :
    Text.IsAscii (render l depth v) := by
  induction hv generalizing depth with
  | null => exact isAscii_scalar .null
  | bool b => exact isAscii_scalar (.bool b)
  | int i => exact isAscii_scalar (.int i)
  | str t => exact isAscii_scalar (.str t)
  | @arr items h ih =>
      cases items with
      | nil => exact isAscii_scalar (.arr h)
      | cons item rest =>
          have ihRest := (List.forall_mem_cons.1 ih).2
          rw [render]
          simp only [Text.isAscii_append, Text.isAscii_cons, and_assoc]
          exact ⟨by decide, (hl.opening depth).isAscii, ih item List.mem_cons_self (depth + 1),
            isAscii_renderItems hl depth fun v hv => ihRest v hv (depth + 1),
            (hl.closing depth).isAscii, by decide, Text.isAscii_nil⟩
  | @obj members h ih =>
      obtain ⟨s, hcolon, hs⟩ := hl.colon
      cases members with
      | nil => exact isAscii_scalar (.obj h)
      | cons m rest =>
          obtain ⟨name, value⟩ := m
          have ihRest := (List.forall_mem_cons.1 ih).2
          rw [render, hcolon]
          simp only [Text.isAscii_append, Text.isAscii_cons, and_assoc]
          exact ⟨by decide, (hl.opening depth).isAscii, isAscii_quote name, by decide, hs.isAscii,
            ih _ List.mem_cons_self (depth + 1),
            isAscii_renderMembers hl depth fun m hm => ihRest m hm (depth + 1),
            (hl.closing depth).isAscii, by decide, Text.isAscii_nil⟩

end Json

end ClaimSeal

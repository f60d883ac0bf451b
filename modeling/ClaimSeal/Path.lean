import ClaimSeal.Datum
import ClaimSeal.Text.Utf8

/-!
**Paths.**

A path is the number of slashes it starts with and its parts.  Reading drops empty parts and parts
that are a single dot, keeps two dots, and tells exactly two slashes at the start from any other
number of them.  A caller gives a path as a text, as the bytes of a file name or as a path that has
already been read.

Main definitions:

* `Path`, `Path.parse`, `Path.text` — paths, reading and writing;
* `PathArg`, `PathArg.toPath`, `PathArg.shown` — paths as callers give them.

Main results:

* `Path.parse_text` — every path reads back after it was written;
* `PathArg.toPath_path` — a path that has been read is meant as it is.
-/

set_option autoImplicit false

namespace ClaimSeal

namespace Path

/-- The slash. -/
def slash : CodePoint := cp '/'

/-- Whether a part counts. -/
def isPart (t : Text) : Bool := !t.isEmpty && t ≠ [cp '.']

/-- How many slashes a path starts with that has `n` of them in front. -/
def leading (n : Nat) : Nat := if n = 2 then 2 else if n = 0 then 0 else 1

theorem leading_le (n : Nat) : leading n ≤ 2 := by
  unfold leading
  split
  · exact Nat.le_refl 2
  · split <;> omega

end Path

/-- A path: at most two slashes in front, and parts that count and hold no slash. -/
@[ext]
structure Path where
  slashes : Nat
  parts : List Text
  slashes_le : slashes ≤ 2
  isPart_of_mem : ∀ part ∈ parts, Path.isPart part = true
  not_mem : ∀ part ∈ parts, Path.slash ∉ part
deriving DecidableEq, Repr

namespace Path

/-- Reads a path. -/
def parse (t : Text) : Path where
  slashes := leading (t.takeWhile (· = slash)).length
  parts := (t.splitAt slash).filter isPart
  slashes_le := leading_le _
  isPart_of_mem _ h := (List.mem_filter.1 h).2
  not_mem _ h := Text.not_mem_of_mem_splitAt (List.mem_filter.1 h).1

/-- Writes a path; without any part it is a dot. -/
def text (p : Path) : Text :=
  if p.slashes = 0 ∧ p.parts = [] then [cp '.']
  else List.replicate p.slashes slash ++ Text.joinWith [slash] p.parts

/-! ### Reading back -/

theorem splitAt_replicate (n : Nat) (t : Text) :
    Text.splitAt slash (List.replicate n slash ++ t) =
      List.replicate n [] ++ Text.splitAt slash t := by
  induction n with
  | zero => rfl
  | succ n ih =>
      rw [List.replicate_succ, List.cons_append, Text.splitAt_cons_self, ih, List.replicate_succ,
        List.cons_append]

theorem filter_replicate (n : Nat) (parts : List Text) :
    (List.replicate n [] ++ parts).filter isPart = parts.filter isPart := by
  rw [List.filter_append, List.filter_replicate, if_neg (by decide), List.nil_append]

theorem head_joinWith {parts : List Text} (h : ∀ part ∈ parts, isPart part = true)
    (hs : ∀ part ∈ parts, slash ∉ part) :
    (Text.joinWith [slash] parts).head? ≠ some slash := by
  match parts with
  | [] => exact nofun
  | part :: rest =>
      have hp := h part List.mem_cons_self
      have hn := hs part List.mem_cons_self
      cases part with
      | nil => exact absurd hp (by decide)
      | cons c part =>
          have hc : c ≠ slash := fun e => hn (by rw [e]; exact List.mem_cons_self)
          cases rest with
          | nil =>
              rw [Text.joinWith, List.head?_cons]
              exact fun e => hc (Option.some.inj e)
          | cons next rest =>
              rw [Text.joinWith, List.append_assoc, List.cons_append, List.head?_cons]
              · exact fun e => hc (Option.some.inj e)
              · exact List.cons_ne_nil _ _

theorem takeWhile_slash (n : Nat) {t : Text} (h : t.head? ≠ some slash) :
    (List.replicate n slash ++ t).takeWhile (fun c => decide (c = slash)) =
      List.replicate n slash := by
  induction n with
  | zero =>
      cases t with
      | nil => rfl
      | cons c t =>
          have hc : c ≠ slash := fun e => h (by rw [e]; rfl)
          rw [List.replicate_zero, List.nil_append, List.takeWhile_cons_of_neg (by simpa using hc)]
  | succ n ih =>
      rw [List.replicate_succ, List.cons_append, List.takeWhile_cons_of_pos (by simp), ih]

/-- A path that is written reads back. -/
theorem parse_text (p : Path) : parse p.text = p := by
  have hl : leading p.slashes = p.slashes := by
    have := p.slashes_le
    unfold leading
    split
    · next h2 => exact h2.symm
    · split
      · next h0 => exact h0.symm
      · omega
  have hf : p.parts.filter isPart = p.parts := List.filter_eq_self.2 p.isPart_of_mem
  suffices (parse p.text).slashes = p.slashes ∧ (parse p.text).parts = p.parts from
    Path.ext this.1 this.2
  unfold text
  split
  · next h0 =>
      rw [h0.1, h0.2]
      decide
  · next h0 =>
      have ht := takeWhile_slash p.slashes (head_joinWith p.isPart_of_mem p.not_mem)
      dsimp only [parse]
      rw [ht, List.length_replicate, hl, splitAt_replicate, filter_replicate]
      refine ⟨rfl, ?_⟩
      by_cases hp : p.parts = []
      · rw [hp]
        rfl
      · rw [Text.splitAt_joinWith hp p.not_mem, hf]

/-- Two slashes in front are kept and three are one; two dots are kept and a single one is not. -/
example :
    (parse (txt "//a/./b//../")).text = txt "//a/b/.." ∧ (parse (txt "///a")).text = txt "/a" ∧
      (parse []).text = txt "." := by
  decide

end Path

/-! ### Paths as callers give them -/

/-- A path as a caller gives it. -/
inductive PathArg where
  | text (t : Text)
  | bytes (b : Bytes)
  | path (p : Path)
  | other (d : Datum)

namespace PathArg

/-- The path that is meant; a value that is no path is given back.  A path that has been read
already is read again from its text. -/
def toPath : PathArg → Except Datum Path
  | text t => .ok (Path.parse t)
  | bytes b => .ok (Path.parse (Text.ofFileName b))
  | path p => .ok (Path.parse p.text)
  | other d => .error d

/-- A path that has been read is meant as it is. -/
theorem toPath_path (p : Path) : toPath (path p) = .ok p := congrArg Except.ok p.parse_text

/-- A path in running text, as it was given. -/
def shown : PathArg → Text
  | text t => t
  | bytes b => b.quoted
  | path p => p.text
  | other d => d.shown

end PathArg

end ClaimSeal

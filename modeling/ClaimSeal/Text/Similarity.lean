import ClaimSeal.Text

/-!
**Similar texts.**

The similarity of two texts is twice the number of code points they have in common, relative to the
sum of their lengths.  What they have in common is found by taking the longest common piece, and
then the same on either side of it.

Main definitions:

* `Text.common` — the number of code points in common;
* `Text.similarTo` — those of a list of texts that are similar to a text.
-/

set_option autoImplicit false

namespace ClaimSeal

namespace Text

/-- The length of the longest common start. -/
def commonStart : Text → Text → Nat
  | a :: as, b :: bs => if a = b then commonStart as bs + 1 else 0
  | _, _ => 0

/-- A common piece: where it starts in either text, and its length. -/
structure Piece where
  left : Nat
  right : Nat
  size : Nat
deriving DecidableEq, Repr

/-- The longest common piece, the first one of several. -/
def longestPiece (a b : Text) : Piece :=
  (List.range a.length).foldl (fun best i =>
    (List.range b.length).foldl (fun best j =>
      let size := commonStart (a.drop i) (b.drop j)
      if best.size < size then ⟨i, j, size⟩ else best) best) ⟨0, 0, 0⟩

/-- The number of code points in common; `fuel` bounds the number of pieces on a side. -/
def commonWithin : (fuel : Nat) → Text → Text → Nat
  | 0, _, _ => 0
  | fuel + 1, a, b =>
      let p := longestPiece a b
      if p.size = 0 then 0
      else
        commonWithin fuel (a.take p.left) (b.take p.right) + p.size
          + commonWithin fuel (a.drop (p.left + p.size)) (b.drop (p.right + p.size))

/-- The number of code points in common. -/
def common (a b : Text) : Nat := commonWithin a.length a b

/-- Whether the similarity of two texts is at least three fifths. -/
def isSimilar (a b : Text) : Bool := 3 * (a.length + b.length) ≤ 10 * common a b

/-- Whether `a` is more similar to `t` than `b` is, or equally similar and greater. -/
def isCloser (t a b : Text) : Bool :=
  let left := common a t * (b.length + t.length)
  let right := common b t * (a.length + t.length)
  right < left || (left = right && !(a < b))

/-- The at most three texts most similar to a text, in order. -/
def similarTo (t : Text) (candidates : List Text) : List Text :=
  let similar := (candidates.filter (isSimilar · t)).mergeSort (isCloser t)
  (similar.take 3).mergeSort fun a b => !(b < a)

end Text

end ClaimSeal

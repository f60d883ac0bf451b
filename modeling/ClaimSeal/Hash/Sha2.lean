import ClaimSeal.Bytes

/-!
**SHA-2.**

The two families differ in the width of their words, in the number of rounds and in the amounts of
their rotations; all else is shared.  The round constants and the starting values are fractional
parts of cube and square roots of the first primes, computed here in whole numbers.

Main definitions:

* `Sha2.Word` — the operations on words that the family needs, for 32 and 64 bits;
* `Sha2.Family`, `Sha2.narrow`, `Sha2.wide` — the parameters of the two families;
* `Sha2.digest` — the hash from a starting value, cut to a size.
-/

set_option autoImplicit false

namespace ClaimSeal

namespace Sha2

/-! ### Words -/

/-- Machine words. -/
class Word (α : Type) where
  bytes : Nat
  ofNat : Nat → α
  toNat : α → Nat
  add : α → α → α
  xor : α → α → α
  and : α → α → α
  not : α → α
  rotate : Nat → α → α
  shift : Nat → α → α

instance : Word UInt32 where
  bytes := 4
  ofNat := UInt32.ofNat
  toNat := UInt32.toNat
  add a b := a + b
  xor a b := a ^^^ b
  and a b := a &&& b
  not a := ~~~a
  rotate n a := (a >>> UInt32.ofNat n) ||| (a <<< UInt32.ofNat (32 - n))
  shift n a := a >>> UInt32.ofNat n

instance : Word UInt64 where
  bytes := 8
  ofNat := UInt64.ofNat
  toNat := UInt64.toNat
  add a b := a + b
  xor a b := a ^^^ b
  and a b := a &&& b
  not a := ~~~a
  rotate n a := (a >>> UInt64.ofNat n) ||| (a <<< UInt64.ofNat (64 - n))
  shift n a := a >>> UInt64.ofNat n

/-! ### Constants -/

/-- The greatest `r` with `low ≤ r < low + 2 ^ fuel` and `r ^ power ≤ n`, if `low` is such an
`r`. -/
def rootFrom (power n : Nat) : (fuel low : Nat) → Nat
  | 0, low => low
  | fuel + 1, low =>
      let high := low + Nat.pow 2 fuel
      rootFrom power n fuel (if Nat.pow high power ≤ n then high else low)

/-- Whether `n` has no divisor among the given numbers. -/
def coprimeToAll (n : Nat) (ps : List Nat) : Bool := ps.all fun p => n % p != 0

/-- The first primes, in ascending order: those among the first `count` numbers from two. -/
def primesBelow (count : Nat) : List Nat :=
  (List.range count).foldl (fun ps k => if coprimeToAll (k + 2) ps then ps ++ [k + 2] else ps) []

/-- The first `count` of the first eighty primes, which lie below 410. -/
def primes (count : Nat) : List Nat := (primesBelow 408).take count

/-- The first `bits` bits of the fractional part of the given root of `p`. -/
def rootBits (power bits p : Nat) : Nat :=
  rootFrom power (p * Nat.pow 2 (power * bits)) (bits + 5) 0 % Nat.pow 2 bits

/-! ### The compression function -/

/-- The eight working variables. -/
structure State (α : Type) where
  a : α
  b : α
  c : α
  d : α
  e : α
  f : α
  g : α
  h : α

/-- What sets a family apart: the round constants and four triples of amounts.  Of the last two
triples the third amount is a shift. -/
structure Family (α : Type) where
  constants : List α
  sum0 : Nat × Nat × Nat
  sum1 : Nat × Nat × Nat
  mix0 : Nat × Nat × Nat
  mix1 : Nat × Nat × Nat

/-- The family of 32-bit words. -/
def narrow : Family UInt32 where
  constants := (primes 64).map fun p => UInt32.ofNat (rootBits 3 32 p)
  sum0 := (2, 13, 22)
  sum1 := (6, 11, 25)
  mix0 := (7, 18, 3)
  mix1 := (17, 19, 10)

/-- The family of 64-bit words. -/
def wide : Family UInt64 where
  constants := (primes 80).map fun p => UInt64.ofNat (rootBits 3 64 p)
  sum0 := (28, 34, 39)
  sum1 := (14, 18, 41)
  mix0 := (1, 8, 7)
  mix1 := (19, 61, 6)

variable {α : Type} [Word α]

/-- Exclusive or of three rotations. -/
@[inline] def rotations (r : Nat × Nat × Nat) (x : α) : α :=
  Word.xor (Word.rotate r.1 x) (Word.xor (Word.rotate r.2.1 x) (Word.rotate r.2.2 x))

/-- Exclusive or of two rotations and a shift. -/
@[inline] def mixing (r : Nat × Nat × Nat) (x : α) : α :=
  Word.xor (Word.rotate r.1 x) (Word.xor (Word.rotate r.2.1 x) (Word.shift r.2.2 x))

/-- Every bit of `y` where `x` is one and of `z` where it is zero. -/
@[inline] def choose (x y z : α) : α := Word.xor (Word.and x y) (Word.and (Word.not x) z)

/-- Every bit as two of the three have it. -/
@[inline] def majority (x y z : α) : α :=
  Word.xor (Word.and x y) (Word.xor (Word.and x z) (Word.and y z))

/-- One round, with its constant and its word of the schedule. -/
@[specialize] def round (fam : Family α) (s : State α) (k w : α) : State α :=
  let t1 := Word.add s.h (Word.add (rotations fam.sum1 s.e)
    (Word.add (choose s.e s.f s.g) (Word.add k w)))
  let t2 := Word.add (rotations fam.sum0 s.a) (majority s.a s.b s.c)
  ⟨Word.add t1 t2, s.a, s.b, s.c, Word.add s.d t1, s.e, s.f, s.g⟩

/-- The last sixteen words of the schedule, oldest first. -/
abbrev Window (α : Type) := List α

/-- The word that follows a window of the schedule. -/
@[specialize] def nextWord (fam : Family α) : Window α → α
  | w0 :: w1 :: rest =>
      match rest.drop 7, rest.drop 12 with
      | w9 :: _, w14 :: _ =>
          Word.add (mixing fam.mix1 w14) (Word.add w9 (Word.add (mixing fam.mix0 w1) w0))
      | _, _ => w0
  | _ => Word.ofNat 0

/-- Runs a round for each constant, sliding the window of the schedule along. -/
@[specialize] def rounds (fam : Family α) : List α → Window α → State α → State α
  | [], _, s => s
  | k :: ks, window, s =>
      match window with
      | [] => s
      | w :: rest => rounds fam ks (rest ++ [nextWord fam window]) (round fam s k w)

/-- Adds two states word by word. -/
@[inline] def State.add (s t : State α) : State α :=
  ⟨Word.add s.a t.a, Word.add s.b t.b, Word.add s.c t.c, Word.add s.d t.d,
    Word.add s.e t.e, Word.add s.f t.f, Word.add s.g t.g, Word.add s.h t.h⟩

/-- Takes in one block of sixteen words. -/
@[specialize] def absorb (fam : Family α) (s : State α) (block : List α) : State α :=
  s.add (rounds fam fam.constants block s)

/-! ### Messages -/

/-- The message with its padding: a one bit, zeros and the length in bits, to whole blocks of
sixteen words. -/
def padded (wordBytes : Nat) (m : Bytes) : Bytes :=
  let block := 16 * wordBytes
  let zeros := (2 * block - 1 - 2 * wordBytes - m.length % block) % block
  m ++ 0x80 :: List.replicate zeros 0 ++ Bytes.ofNat (2 * wordBytes) (8 * m.length)

/-- A state of eight words. -/
def State.ofList (ws : List α) : State α :=
  let word (i : Nat) : α := ws.getD i (Word.ofNat 0)
  ⟨word 0, word 1, word 2, word 3, word 4, word 5, word 6, word 7⟩

/-- The bytes of a state. -/
def State.toBytes (s : State α) : Bytes :=
  [s.a, s.b, s.c, s.d, s.e, s.f, s.g, s.h].flatMap fun w =>
    Bytes.ofNat (Word.bytes α) (Word.toNat w)

/-- The hash of a message from a starting value, cut to `size` bytes. -/
@[specialize] def digest (fam : Family α) (start : State α) (size : Nat) (m : Bytes) : Bytes :=
  let width := Word.bytes α
  let final := (Bytes.blocks (16 * width) (padded width m)).foldl
    (fun s block =>
      absorb fam s ((Bytes.blocks width block).map fun b => Word.ofNat (Bytes.toNat b)))
    start
  final.toBytes.take size

/-! ### Starting values -/

/-- Square roots of the first eight primes, 32 bits each. -/
def start256 : State UInt32 := .ofList ((primes 8).map fun p => UInt32.ofNat (rootBits 2 32 p))

/-- Square roots of the first eight primes, 64 bits each. -/
def start512 : State UInt64 := .ofList ((primes 8).map fun p => UInt64.ofNat (rootBits 2 64 p))

/-- Square roots of the ninth to the sixteenth prime, 64 bits each. -/
def start384 : State UInt64 :=
  .ofList (((primes 16).drop 8).map fun p => UInt64.ofNat (rootBits 2 64 p))

/-- The last 32 of the 64 bits of the square roots of the ninth to the sixteenth prime. -/
def start224 : State UInt32 :=
  .ofList (((primes 16).drop 8).map fun p => UInt32.ofNat (rootBits 2 64 p))

/-- SHA-224. -/
def sha224 (m : Bytes) : Bytes := digest narrow start224 28 m

/-- SHA-256. -/
def sha256 (m : Bytes) : Bytes := digest narrow start256 32 m

/-- SHA-384. -/
def sha384 (m : Bytes) : Bytes := digest wide start384 48 m

/-- SHA-512. -/
def sha512 (m : Bytes) : Bytes := digest wide start512 64 m

end Sha2

end ClaimSeal

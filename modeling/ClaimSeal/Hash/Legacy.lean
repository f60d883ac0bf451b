import ClaimSeal.Bytes

/-!
**SHA-1 and MD5.**

Two old hashes that formats of encrypted keys still name.

Main definitions:

* `Legacy.sha1`, `Legacy.md5`.
-/

set_option autoImplicit false

namespace ClaimSeal

namespace Legacy

/-- Rotation to the left. -/
def rotate (n : UInt32) (x : UInt32) : UInt32 := (x <<< n) ||| (x >>> (32 - n))

/-- The message followed by a one bit and zeros up to eight bytes before the end of a block. -/
def padded (m : Bytes) : Bytes :=
  m ++ 0x80 :: List.replicate ((119 - m.length % 64) % 64) 0

/-- The words of a block, most significant byte first. -/
def bigWords (b : Bytes) : List UInt32 :=
  (Bytes.blocks 4 b).map fun w => UInt32.ofNat (Bytes.toNat w)

/-- The words of a block, least significant byte first. -/
def littleWords (b : Bytes) : List UInt32 :=
  (Bytes.blocks 4 b).map fun w => UInt32.ofNat (Bytes.toNat w.reverse)

/-! ### SHA-1 -/

/-- The five working variables of SHA-1. -/
structure Five where
  a : UInt32
  b : UInt32
  c : UInt32
  d : UInt32
  e : UInt32

/-- The function and the constant of a round. -/
def sha1Step (t : Nat) (s : Five) : UInt32 :=
  if t < 20 then ((s.b &&& s.c) ||| (~~~s.b &&& s.d)) + 0x5a827999
  else if t < 40 then (s.b ^^^ s.c ^^^ s.d) + 0x6ed9eba1
  else if t < 60 then ((s.b &&& s.c) ||| (s.b &&& s.d) ||| (s.c &&& s.d)) + 0x8f1bbcdc
  else (s.b ^^^ s.c ^^^ s.d) + 0xca62c1d6

/-- Runs the rounds from `t` on over a sliding window of sixteen words of the schedule. -/
def sha1Rounds : (fuel t : Nat) → List UInt32 → Five → Five
  | 0, _, _, s => s
  | fuel + 1, t, window, s =>
      match window with
      | w :: rest =>
          let word (i : Nat) : UInt32 := window.getD i 0
          let next := rotate 1 (word 13 ^^^ word 8 ^^^ word 2 ^^^ w)
          let a := rotate 5 s.a + sha1Step t s + s.e + w
          sha1Rounds fuel (t + 1) (rest ++ [next]) ⟨a, s.a, rotate 30 s.b, s.c, s.d⟩
      | [] => s

/-- Takes in one block. -/
def sha1Absorb (s : Five) (block : Bytes) : Five :=
  let r := sha1Rounds 80 0 (bigWords block) s
  ⟨s.a + r.a, s.b + r.b, s.c + r.c, s.d + r.d, s.e + r.e⟩

/-- SHA-1. -/
def sha1 (m : Bytes) : Bytes :=
  let message := padded m ++ Bytes.ofNat 8 (8 * m.length)
  let s := (Bytes.blocks 64 message).foldl sha1Absorb
    ⟨0x67452301, 0xefcdab89, 0x98badcfe, 0x10325476, 0xc3d2e1f0⟩
  [s.a, s.b, s.c, s.d, s.e].flatMap fun w => Bytes.ofNat 4 w.toNat

/-! ### MD5 -/

/-- The four working variables of MD5. -/
structure Four where
  a : UInt32
  b : UInt32
  c : UInt32
  d : UInt32

/-- The whole parts of `2 ^ 32` times the sines of the first 64 whole angles in radians. -/
def md5Constants : List UInt32 := [
  0xd76aa478, 0xe8c7b756, 0x242070db, 0xc1bdceee, 0xf57c0faf, 0x4787c62a, 0xa8304613, 0xfd469501,
  0x698098d8, 0x8b44f7af, 0xffff5bb1, 0x895cd7be, 0x6b901122, 0xfd987193, 0xa679438e, 0x49b40821,
  0xf61e2562, 0xc040b340, 0x265e5a51, 0xe9b6c7aa, 0xd62f105d, 0x02441453, 0xd8a1e681, 0xe7d3fbc8,
  0x21e1cde6, 0xc33707d6, 0xf4d50d87, 0x455a14ed, 0xa9e3e905, 0xfcefa3f8, 0x676f02d9, 0x8d2a4c8a,
  0xfffa3942, 0x8771f681, 0x6d9d6122, 0xfde5380c, 0xa4beea44, 0x4bdecfa9, 0xf6bb4b60, 0xbebfbc70,
  0x289b7ec6, 0xeaa127fa, 0xd4ef3085, 0x04881d05, 0xd9d4d039, 0xe6db99e5, 0x1fa27cf8, 0xc4ac5665,
  0xf4292244, 0x432aff97, 0xab9423a7, 0xfc93a039, 0x655b59c3, 0x8f0ccc92, 0xffeff47d, 0x85845dd1,
  0x6fa87e4f, 0xfe2ce6e0, 0xa3014314, 0x4e0811a1, 0xf7537e82, 0xbd3af235, 0x2ad7d2bb, 0xeb86d391]

/-- The amounts of rotation of a group of sixteen rounds. -/
def md5Shift (t : Nat) : UInt32 :=
  let amounts : List UInt32 :=
    if t < 16 then [7, 12, 17, 22]
    else if t < 32 then [5, 9, 14, 20]
    else if t < 48 then [4, 11, 16, 23]
    else [6, 10, 15, 21]
  amounts.getD (t % 4) 0

/-- The function of a round and the index of the word it takes. -/
def md5Step (t : Nat) (s : Four) : UInt32 × Nat :=
  if t < 16 then ((s.b &&& s.c) ||| (~~~s.b &&& s.d), t)
  else if t < 32 then ((s.d &&& s.b) ||| (~~~s.d &&& s.c), (5 * t + 1) % 16)
  else if t < 48 then (s.b ^^^ s.c ^^^ s.d, (3 * t + 5) % 16)
  else (s.c ^^^ (s.b ||| ~~~s.d), (7 * t) % 16)

/-- Runs a round for each constant, from round `t` on. -/
def md5Rounds (words : List UInt32) : (t : Nat) → List UInt32 → Four → Four
  | _, [], s => s
  | t, k :: ks, s =>
      let (f, i) := md5Step t s
      let sum := f + s.a + k + words.getD i 0
      md5Rounds words (t + 1) ks ⟨s.d, s.b + rotate (md5Shift t) sum, s.b, s.c⟩

/-- Takes in one block. -/
def md5Absorb (s : Four) (block : Bytes) : Four :=
  let r := md5Rounds (littleWords block) 0 md5Constants s
  ⟨s.a + r.a, s.b + r.b, s.c + r.c, s.d + r.d⟩

/-- MD5. -/
def md5 (m : Bytes) : Bytes :=
  let message := padded m ++ (Bytes.ofNat 8 (8 * m.length)).reverse
  let s := (Bytes.blocks 64 message).foldl md5Absorb
    ⟨0x67452301, 0xefcdab89, 0x98badcfe, 0x10325476⟩
  [s.a, s.b, s.c, s.d].flatMap fun w => (Bytes.ofNat 4 w.toNat).reverse

end Legacy

end ClaimSeal

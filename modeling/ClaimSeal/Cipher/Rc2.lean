import ClaimSeal.Bytes

/-!
**RC2, decryption.**

The cipher works on four words of sixteen bits, least significant byte first.  Its key is stretched
to 64 words; all that depends on the key is first squeezed through a number of bits, the effective
size of the key.

Main definitions:

* `Rc2.schedule` — the words of a key, whose effective size is its size;
* `Rc2.decryptBlock` — one block of eight bytes.
-/

set_option autoImplicit false

namespace ClaimSeal

namespace Rc2

/-! ### The key schedule -/

/-- A permutation of all bytes. -/
def table : Array UInt8 := #[
  0xd9, 0x78, 0xf9, 0xc4, 0x19, 0xdd, 0xb5, 0xed, 0x28, 0xe9, 0xfd, 0x79, 0x4a, 0xa0, 0xd8, 0x9d,
  0xc6, 0x7e, 0x37, 0x83, 0x2b, 0x76, 0x53, 0x8e, 0x62, 0x4c, 0x64, 0x88, 0x44, 0x8b, 0xfb, 0xa2,
  0x17, 0x9a, 0x59, 0xf5, 0x87, 0xb3, 0x4f, 0x13, 0x61, 0x45, 0x6d, 0x8d, 0x09, 0x81, 0x7d, 0x32,
  0xbd, 0x8f, 0x40, 0xeb, 0x86, 0xb7, 0x7b, 0x0b, 0xf0, 0x95, 0x21, 0x22, 0x5c, 0x6b, 0x4e, 0x82,
  0x54, 0xd6, 0x65, 0x93, 0xce, 0x60, 0xb2, 0x1c, 0x73, 0x56, 0xc0, 0x14, 0xa7, 0x8c, 0xf1, 0xdc,
  0x12, 0x75, 0xca, 0x1f, 0x3b, 0xbe, 0xe4, 0xd1, 0x42, 0x3d, 0xd4, 0x30, 0xa3, 0x3c, 0xb6, 0x26,
  0x6f, 0xbf, 0x0e, 0xda, 0x46, 0x69, 0x07, 0x57, 0x27, 0xf2, 0x1d, 0x9b, 0xbc, 0x94, 0x43, 0x03,
  0xf8, 0x11, 0xc7, 0xf6, 0x90, 0xef, 0x3e, 0xe7, 0x06, 0xc3, 0xd5, 0x2f, 0xc8, 0x66, 0x1e, 0xd7,
  0x08, 0xe8, 0xea, 0xde, 0x80, 0x52, 0xee, 0xf7, 0x84, 0xaa, 0x72, 0xac, 0x35, 0x4d, 0x6a, 0x2a,
  0x96, 0x1a, 0xd2, 0x71, 0x5a, 0x15, 0x49, 0x74, 0x4b, 0x9f, 0xd0, 0x5e, 0x04, 0x18, 0xa4, 0xec,
  0xc2, 0xe0, 0x41, 0x6e, 0x0f, 0x51, 0xcb, 0xcc, 0x24, 0x91, 0xaf, 0x50, 0xa1, 0xf4, 0x70, 0x39,
  0x99, 0x7c, 0x3a, 0x85, 0x23, 0xb8, 0xb4, 0x7a, 0xfc, 0x02, 0x36, 0x5b, 0x25, 0x55, 0x97, 0x31,
  0x2d, 0x5d, 0xfa, 0x98, 0xe3, 0x8a, 0x92, 0xae, 0x05, 0xdf, 0x29, 0x10, 0x67, 0x6c, 0xba, 0xc9,
  0xd3, 0x00, 0xe6, 0xcf, 0xe1, 0x9e, 0xa8, 0x2c, 0x63, 0x16, 0x01, 0x3f, 0x58, 0xe2, 0x89, 0xa9,
  0x0d, 0x38, 0x34, 0x1b, 0xab, 0x33, 0xff, 0xb0, 0xbb, 0x48, 0x0c, 0x5f, 0xb9, 0xb1, 0xcd, 0x2e,
  0xc5, 0xf3, 0xdb, 0x47, 0xe5, 0xa5, 0x9c, 0x77, 0x0a, 0xa6, 0x20, 0x68, 0xfe, 0x7f, 0xc1, 0xad]

/-- The image of a byte. -/
def image (b : UInt8) : UInt8 := table.getD b.toNat 0

/-- Stretches a key by `fuel` bytes, each from the last one and the one a key before the new one;
`key` holds the bytes so far, latest first. -/
def stretch (size : Nat) : (fuel : Nat) → (key : Bytes) → Bytes
  | 0, key => key
  | fuel + 1, key =>
      stretch size fuel (image (key.headD 0 + key.getD (size - 1) 0) :: key)

/-- Puts `fuel` bytes in front of a key, each from the one that follows it and the one `size` places
on. -/
def squeeze (size : Nat) : (fuel : Nat) → (key : Bytes) → Bytes
  | 0, key => key
  | fuel + 1, key =>
      squeeze size fuel (image (key.headD 0 ^^^ key.getD (size - 1) 0) :: key)

/-- The words of a byte string, least significant byte first. -/
def words (b : Bytes) : List UInt16 :=
  (Bytes.blocks 2 b).map fun w => UInt16.ofNat (Bytes.toNat w.reverse)

/-- The 64 words of a key of at most 128 bytes. -/
def schedule (key : Bytes) : Array UInt16 :=
  let size := key.length
  let stretched := (stretch size (128 - size) key.reverse).reverse.drop (128 - size)
  let start := image (stretched.headD 0) :: stretched.drop 1
  (words (squeeze size (128 - size) start)).toArray

/-! ### Decryption -/

/-- The four words of a block. -/
structure Block where
  a : UInt16
  b : UInt16
  c : UInt16
  d : UInt16

/-- Rotation to the right. -/
def rotate (n x : UInt16) : UInt16 := (x >>> n) ||| (x <<< (16 - n))

/-- Undoes the mixing of all four words with the four key words from `i` on. -/
def unmix (keys : Array UInt16) (i : Nat) (s : Block) : Block :=
  let key (j : Nat) : UInt16 := keys.getD (i + j) 0
  let d := rotate 5 s.d - key 3 - (s.c &&& s.b) - (~~~s.c &&& s.a)
  let c := rotate 3 s.c - key 2 - (s.b &&& s.a) - (~~~s.b &&& d)
  let b := rotate 2 s.b - key 1 - (s.a &&& d) - (~~~s.a &&& c)
  let a := rotate 1 s.a - key 0 - (d &&& c) - (~~~d &&& b)
  ⟨a, b, c, d⟩

/-- Undoes the mashing of all four words, each with a key word that another word picks. -/
def unmash (keys : Array UInt16) (s : Block) : Block :=
  let key (x : UInt16) : UInt16 := keys.getD (x.toNat % 64) 0
  let d := s.d - key s.c
  let c := s.c - key s.b
  let b := s.b - key s.a
  let a := s.a - key d
  ⟨a, b, c, d⟩

/-- Runs the rounds of mixing backwards from the given one on. -/
def unrounds (keys : Array UInt16) : (rounds : Nat) → Block → Block
  | 0, s => s
  | n + 1, s =>
      let s := unmix keys (4 * n) s
      unrounds keys n (if n = 11 ∨ n = 5 then unmash keys s else s)

/-- The bytes of a word, least significant first. -/
def bytes (x : UInt16) : Bytes := (Bytes.ofNat 2 x.toNat).reverse

/-- Decrypts one block with the words of the key. -/
def decryptBlock (keys : Array UInt16) (block : Bytes) : Bytes :=
  match words block with
  | [a, b, c, d] =>
      let s := unrounds keys 16 ⟨a, b, c, d⟩
      bytes s.a ++ bytes s.b ++ bytes s.c ++ bytes s.d
  | _ => block

end Rc2

end ClaimSeal

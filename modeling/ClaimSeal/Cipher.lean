import ClaimSeal.Cipher.Aes
import ClaimSeal.Cipher.Des
import ClaimSeal.Cipher.Rc2
import ClaimSeal.Cipher.Rc4

/-!
**Ciphers.**

All ciphers but one work on blocks, in chaining mode and with padding; the other one gives out a
stream and needs neither.

Main definitions:

* `Cipher` — the ciphers that formats of encrypted keys name, with the sizes of key and block;
* `Cipher.decrypt?` — decryption, with the padding taken off.
-/

set_option autoImplicit false

namespace ClaimSeal

/-- The ciphers in use; of one there are two sizes. -/
inductive Cipher where
  | aes128
  | aes192
  | aes256
  | des
  | tripleDes
  | rc2
  | shortRc2
  | rc4
deriving DecidableEq, Repr

namespace Cipher

/-- The size of a key in bytes. -/
def keySize : Cipher → Nat
  | aes128 | rc2 | rc4 => 16
  | aes192 | tripleDes => 24
  | aes256 => 32
  | des => 8
  | shortRc2 => 5

/-- The size of a block in bytes. -/
def blockSize : Cipher → Nat
  | aes128 | aes192 | aes256 => 16
  | des | tripleDes | rc2 | shortRc2 => 8
  | rc4 => 1

/-- Decryption of one block under a key. -/
def decryptBlock (c : Cipher) (key : Bytes) : Bytes → Bytes :=
  match c with
  | aes128 | aes192 | aes256 =>
      let keys := Aes.schedule key
      Aes.decryptBlock keys
  | des => Des.decryptBlock key
  | tripleDes => Des.decryptTriple key
  | rc2 | shortRc2 =>
      let keys := Rc2.schedule key
      Rc2.decryptBlock keys
  | rc4 => id

/-- Decrypts block after block; each is then combined with the block before it. -/
def chain (decrypt : Bytes → Bytes) : (before : Bytes) → List Bytes → List Bytes
  | _, [] => []
  | before, b :: rest => Bytes.xor (decrypt b) before :: chain decrypt b rest

/-- Takes the padding off: at least one byte and at most a block, all equal to their number. -/
def unpad? (blockSize : Nat) (plain : Bytes) : Option Bytes :=
  match plain.getLast? with
  | none => none
  | some last =>
      let n := last.toNat
      let kept := plain.length - n
      if 0 < n ∧ n ≤ blockSize ∧ n ≤ plain.length ∧ (plain.drop kept).all (· == last) then
        some (plain.take kept)
      else none

/-- Decrypts in chaining mode.  The input has to be whole blocks, at least one, and the padding has
to be right. -/
def decryptBlocks? (c : Cipher) (key start data : Bytes) : Option Bytes :=
  if data.length % c.blockSize = 0 then
    unpad? c.blockSize
      (chain (c.decryptBlock key) start (Bytes.blocks c.blockSize data)).flatten
  else none

/-- Decrypts from a starting block.  Of a longer one only the beginning counts. -/
def decrypt? (c : Cipher) (key start data : Bytes) : Option Bytes :=
  if key.length = c.keySize ∧ c.blockSize ≤ start.length then
    if c = rc4 then some (Rc4.crypt key data)
    else c.decryptBlocks? key (start.take c.blockSize) data
  else none

end Cipher

end ClaimSeal

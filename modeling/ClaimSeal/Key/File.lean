import ClaimSeal.Derivation
import ClaimSeal.Key.Private
import ClaimSeal.Pem

/-!
**Private keys in files.**

A key stands in an armoured block whose label tells its form.  It may be encrypted, either in a form
that says how, or by headers of the block.

Main definitions:

* `KeyFile.decrypt?` — the contents of an encrypted key;
* `KeyFile.load?` — the key in a file, with the password if it needs one.
-/

set_option autoImplicit false

namespace ClaimSeal

namespace KeyFile

open Der

/-! ### Encryption that the form tells -/

/-- The hash of the keyed hash that an identifier means. -/
def keyedHash? : AlgorithmId → Option Hash
  | .plain [42, 840, 113549, 2, n] _ =>
      match n with
      | 7 => some .sha1
      | 8 => some .sha224
      | 9 => some .sha256
      | 10 => some .sha384
      | 11 => some .sha512
      | _ => none
  | _ => none

/-- The derivation that an identifier means. -/
def derivation? : AlgorithmId → Option Derivation
  | .rounds salt count hash => (keyedHash? hash).map (.rounds salt count)
  | .memory salt cost => some (.memory salt cost)
  | _ => none

/-- The only version of RC2 that is in use: that of an effective size of 128 bits. -/
def rc2Version : Nat := 58

/-- The cipher that an identifier means, with its starting block. -/
def cipher? : AlgorithmId → Option (Cipher × Bytes)
  | .chaining cipher start => some (cipher, start)
  | .rc2 version start => if version = some rc2Version then some (.rc2, start) else none
  | _ => none

/-- What was encrypted by a password in the way that an identifier means. -/
def decryptAs? (algorithm : AlgorithmId) (password data : Bytes) : Option Bytes :=
  match algorithm with
  | .combined derivation cipher => do
      let (cipher, start) ← cipher? cipher
      let key ← (← derivation? derivation).key? password cipher.keySize
      cipher.decrypt? key start data
  | .hashed salt count => do
      let digest ← Derivation.hashed? .md5 password salt count
      Cipher.des.decrypt? (digest.take 8) (digest.drop 8) data
  | .diversified cipher salt count => do
      let text ← Utf8.decode? password
      let bytes (purpose : Derivation.Purpose) (size : Nat) : Bytes :=
        Derivation.diversified .sha1 purpose text salt count size
      cipher.decrypt? (bytes .key cipher.keySize) (bytes .start cipher.blockSize) data
  | _ => none

/-- An encrypted key: how it is encrypted, and the data. -/
def encrypted : Reader (AlgorithmId × Bytes) := record do
  pure (← AlgorithmId.reader, ← octets)

/-- The contents of an encrypted key. -/
def decrypt? (password contents : Bytes) : Option Bytes := do
  let (algorithm, data) ← whole? encrypted contents
  decryptAs? algorithm password data

/-! ### Encryption that headers tell -/

/-- The cipher that a header names. -/
def headerCipher? (name : Text) : Option Cipher :=
  if name = txt "AES-128-CBC" then some .aes128
  else if name = txt "AES-256-CBC" then some .aes256
  else if name = txt "DES-EDE3-CBC" then some .tripleDes
  else none

/-- The contents of a block that is encrypted as its header tells. -/
def decryptBlock? (password : Bytes) (info : Text) (contents : Bytes) : Option Bytes := do
  let (name, start) ← info.cutAt? (cp ',')
  let cipher ← headerCipher? name
  let start ← (Text.toAscii? start).bind Bytes.ofHex?
  let key := (Derivation.chained .md5 password (start.take 8) 2 []).take cipher.keySize
  cipher.decrypt? key start contents

/-! ### Loading -/

/-- The forms of private keys that labels tell. -/
inductive Form where
  | common
  | encrypted
  | rsa
  | elliptic
  | dsa
deriving DecidableEq

/-- The form that a label tells. -/
def form? (label : Bytes) : Option Form :=
  if label = ascii "PRIVATE KEY" then some .common
  else if label = ascii "ENCRYPTED PRIVATE KEY" then some .encrypted
  else if label = ascii "RSA PRIVATE KEY" then some .rsa
  else if label = ascii "EC PRIVATE KEY" then some .elliptic
  else if label = ascii "DSA PRIVATE KEY" then some .dsa
  else none

/-- The contents of a block, decrypted if its headers say so, and whether they do. -/
def opened? (block : Pem.Block) (password : Option Bytes) : Option (Bytes × Bool) :=
  match block.header? (txt "Proc-Type") with
  | none => some (block.contents, false)
  | some t =>
      if t = txt "4,ENCRYPTED" then do
        let info ← block.header? (txt "DEK-Info")
        let plain ← decryptBlock? (← password) info block.contents
        some (plain, true)
      else none

/-- The key in contents of a given form, and whether the form needs a password. -/
def key? (form : Form) (password : Option Bytes) (contents : Bytes) :
    Option (KeyMaterial × Bool) :=
  match form with
  | .common => (whole? KeyMaterial.reader contents).map (·, false)
  | .rsa => (whole? KeyMaterial.rsaReader contents).map (·, false)
  | .elliptic => (whole? (KeyMaterial.ellipticReader none) contents).map (·, false)
  | .dsa => (whole? KeyMaterial.dsaReader contents).map (·, false)
  | .encrypted => do
      let plain ← decrypt? (← password) contents
      (whole? KeyMaterial.reader plain).map (·, true)

/-- The key in a file: the first block with the label of a private key holds it.  A password that
is given has to be needed. -/
def load? (file : Bytes) (password : Option Bytes) : Option KeyMaterial := do
  let blocks ← Pem.parse? file
  let block ← blocks.find? fun b => (form? b.label).isSome
  let form ← form? block.label
  let (contents, isEncrypted) ← opened? block password
  let (key, usesPassword) ← key? form password contents
  if password.isSome && !isEncrypted && !usesPassword then none else some key

end KeyFile

end ClaimSeal

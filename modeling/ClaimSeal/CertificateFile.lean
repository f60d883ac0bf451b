import ClaimSeal.Key.Public
import ClaimSeal.Key
import ClaimSeal.Pem

/-!
**Certificates in files.**

A certificate names its issuer and its subject, says from when to when it is valid, and holds a
public key.  It is read strictly and as a whole, save for the public key, which is only looked at
when it is asked for.

Main definitions:

* `CertificateFile.Record`, `CertificateFile.reader` — what a certificate holds;
* `CertificateFile.load` — the certificates in a file.
-/

set_option autoImplicit false

namespace ClaimSeal

namespace CertificateFile

open Der

/-! ### Parts of a certificate -/

/-- The characters of a printable string. -/
def isPrintable (c : UInt8) : Bool :=
  (65 ≤ c && c ≤ 90) || (97 ≤ c && c ≤ 122) || (48 ≤ c && c ≤ 57)
    || (ascii " '()+,-./:=?").contains c

/-- Whether units of two bytes are well-formed: surrogates come in pairs. -/
def arePairs : Bytes → Bool
  | [] => true
  | [_] => false
  | a :: _ :: rest =>
      if 0xD8 ≤ a ∧ a ≤ 0xDB then
        match rest with
        | b :: _ :: rest => 0xDC ≤ b && b ≤ 0xDF && arePairs rest
        | _ => false
      else if 0xDC ≤ a ∧ a ≤ 0xDF then false
      else arePairs rest

/-- Whether units of four bytes are code points, no surrogates. -/
def areQuads : Bytes → Bool
  | [] => true
  | a :: b :: c :: d :: rest =>
      let n := Bytes.toNat [a, b, c, d]
      n < 0x110000 && !(0xD800 ≤ n && n ≤ 0xDFFF) && areQuads rest
  | _ => false

/-- The value of a part of a name: strings of three types are checked, others taken as they
stand. -/
def nameValue : Reader Unit := do
  let (t, c) ← any
  require (if t = universal 19 then c.all isPrintable
    else if t = universal 30 then arePairs c
    else if t = universal 28 then areQuads c
    else true)

/-- A part of a name. -/
def namePart : Reader Unit := record do
  let _ ← objectId
  nameValue

/-- A name. -/
def name : Reader Unit := do
  let _ ← sequenceOf (setOf namePart)

/-- The number of days of a month. -/
def daysIn (year month : Nat) : Nat :=
  if month = 2 then
    if year % 4 = 0 ∧ (year % 100 ≠ 0 ∨ year % 400 = 0) then 29 else 28
  else if month = 4 ∨ month = 6 ∨ month = 9 ∨ month = 11 then 30
  else 31

/-- Two digits as a number. -/
def twoDigits? (a b : UInt8) : Option Nat :=
  if 48 ≤ a ∧ a ≤ 57 ∧ 48 ≤ b ∧ b ≤ 57 then some ((a.toNat - 48) * 10 + (b.toNat - 48)) else none

/-- Pairs of digits as numbers. -/
def pairs? : Bytes → Option (List Nat)
  | [] => some []
  | [_] => none
  | a :: b :: rest => do
      let n ← twoDigits? a b
      let others ← pairs? rest
      some (n :: others)

/-- Whether numbers make up a moment. -/
def isMoment (year month day hour minute second : Nat) : Bool :=
  1 ≤ month && month ≤ 12 && 1 ≤ day && day ≤ daysIn year month && hour < 24 && minute < 60
    && second < 60

/-- A moment, with a year of two or four digits, ending in a `Z`. -/
def moment : Reader Unit := do
  let (t, c) ← any
  require (c.getLast? = some 90)
  let numbers ← given (pairs? c.dropLast)
  match numbers with
  | [y, mo, d, h, mi, s] =>
      require (t = universal 23 && isMoment (if y < 50 then 2000 + y else 1900 + y) mo d h mi s)
  | [c, y, mo, d, h, mi, s] => require (t = universal 24 && isMoment (100 * c + y) mo d h mi s)
  | _ => fail

/-- The time of validity. -/
def validity : Reader Unit := record do
  moment
  moment

/-- An extension.  That it is not critical is never written. -/
def extension : Reader Unit := record do
  let _ ← objectId
  let critical ← perhaps (universal 1) boolean
  require (critical ≠ some false)
  let _ ← octets

/-! ### Certificates -/

/-- What is kept of a certificate. -/
structure Record where
  version : Nat
  serial : Int
  key : PublicKey.Info

/-- The part of a certificate that is signed.  The first version is never written. -/
def signedPart : Reader Record := record do
  let version ← perhaps (contextCompound 0) (explicit 0 small)
  require (version ≠ some 0)
  let serial ← integer
  let _ ← AlgorithmId.reader
  name
  validity
  name
  let key ← PublicKey.Info.reader
  let _ ← perhaps (context 1) (implicitBits 1)
  let _ ← perhaps (context 2) (implicitBits 2)
  let _ ← perhaps (contextCompound 3) (explicit 3 (sequenceOf extension))
  pure ⟨version.getD 0, serial, key⟩

/-- A certificate. -/
def reader : Reader Record := record do
  let record ← signedPart
  let _ ← AlgorithmId.reader
  let _ ← bits
  pure record

/-! ### Loading -/

/-- Why certificates cannot be loaded: they are malformed, or the version of one is unknown. -/
inductive LoadError where
  | malformed
  | version (n : Nat)
deriving DecidableEq, Repr

/-- The certificate in a block. -/
def ofContents (der : Bytes) : Except LoadError (Certificate PublicKey) :=
  match whole? reader der with
  | none => .error .malformed
  | some record =>
      if record.version = 0 ∨ record.version = 2 then
        .ok {
          publicKey :=
            match PublicKey.ofInfo? record.key with
            | some key => .ok key
            | none => .error none
          serial := record.serial
          der }
      else .error (.version record.version)

/-- Whether a block holds a certificate. -/
def isCertificate (block : Pem.Block) : Bool :=
  block.label = ascii "CERTIFICATE" || block.label = ascii "X509 CERTIFICATE"

/-- The certificates in a file, at least one. -/
def load (file : Bytes) : Except LoadError (List (Certificate PublicKey)) :=
  match Pem.parse? file with
  | none => .error .malformed
  | some blocks => do
      let certs ← (blocks.filter isCertificate).mapM fun b => ofContents b.contents
      if certs.isEmpty then .error .malformed else .ok certs

end CertificateFile

end ClaimSeal

import ClaimSeal.Key
import ClaimSeal.Signer

/-!
**Signers with a private key.**

Such a signer is built from a private key, certificates in any order and an algorithm.  The key has
to suit the algorithm, and one certificate has to hold its public key; that one goes to the end of
the chain.  A revocation response is attached only if it speaks about that certificate.

Signatures on elliptic curves are written as their two numbers, each as wide as a coordinate of the
curve.

Main definitions:

* `Algorithm.suits` — whether a key suits an algorithm;
* `orderChain` — the chain with the certificate of the key at its end;
* `KeySigner`, `KeySigner.build`, `KeySigner.withOcsp` — signers with a key, and how they are made;
* `KeySigner.toSigner` — what they can do.
-/

set_option autoImplicit false

namespace ClaimSeal

variable {σ κ : Type}

/-! ### Checks -/

/-- Whether a key suits an algorithm. -/
def Algorithm.suits (alg : Algorithm) (family : KeyFamily) : Except CredentialError Unit :=
  match alg.family with
  | .ecdsa =>
      match family with
      | .elliptic curve _ =>
          if alg.curve?.map Curve.Name.text = some curve then .ok ()
          else .error (.wrongCurve alg curve)
      | _ => .error (.notElliptic alg)
  | .rsaPss =>
      match family with
      | .rsa bits => if bits < leastRsaSize then .error (.smallRsa bits) else .ok ()
      | _ => .error (.notRsa alg)
  | .edwards =>
      match family with
      | .edwards => .ok ()
      | _ => .error (.notEdwards alg)

/-- Certificates with the one of the signing key apart from the others. -/
structure Chain (κ : Type) where
  others : List (Certificate κ)
  own : Certificate κ

/-- The faults about a public key that are the fault of the certificate. -/
def isKeyFault (f : Fault) : Bool := f.kind.isValue || f.kind = .unsupportedAlgorithm

/-- How a public key that cannot be loaded is reported. -/
def publicKeyFailure (index : Nat) : Option Fault → Failure
  | none => .credential (.publicKey index none)
  | some f => if isKeyFault f then .credential (.publicKey index (some f)) else .fault f

/-- Finds the first certificate with a given public key, and sets it apart; `index` counts the
certificates before, which are in `before`. -/
def orderChainFrom [DecidableEq κ] (key : κ) :
    (index : Nat) → (before : List (Certificate κ)) → List (Certificate κ) →
    Except Failure (Chain κ)
  | _, _, [] => .error (.credential .unmatched)
  | index, before, c :: rest =>
      match c.publicKey with
      | .error why => .error (publicKeyFailure index why)
      | .ok k =>
          if k = key then .ok ⟨before ++ rest, c⟩
          else orderChainFrom key (index + 1) (before ++ [c]) rest

/-- Sets the first certificate with a given public key apart; the others keep their order. -/
def orderChain [DecidableEq κ] (key : κ) (certs : List (Certificate κ)) :
    Except Failure (Chain κ) := orderChainFrom key 0 [] certs

/-- How a revocation response that is not accepted is reported. -/
def Ocsp.Rejection.failure : Ocsp.Rejection → Failure
  | malformed => .credential .malformedResponse
  | unassigned code => .unassignedStatus code
  | unsuccessful status => .credential (.unsuccessfulResponse status)
  | uncovered serial => .credential (.uncoveredSerial serial)

/-- Lets a revocation response pass that covers a serial number. -/
def acceptOcsp (response : Bytes) (serial : Int) : Except Failure Bytes :=
  (Ocsp.accept response serial).mapError Ocsp.Rejection.failure

/-! ### Building -/

/-- A signer with a private key. -/
structure KeySigner (σ κ : Type) where
  key : PrivateKey σ κ
  alg : Algorithm
  tsaUrl : Option Text
  chain : Chain κ
  ocsp : Option Bytes

/-- The space for a signature and the structure around it. -/
def baseSize : Nat := 1024

/-- The space for the answer of a time authority. -/
def timestampSize : Nat := 10000

namespace KeySigner

/-- The encoded certificates, the signer's own at the end. -/
def certs (s : KeySigner σ κ) : List Bytes :=
  s.chain.others.map Certificate.der ++ [s.chain.own.der]

/-- Whether the answer of a time authority will be asked for. -/
def usesTimeAuthority (s : KeySigner σ κ) : Bool := !(s.tsaUrl.getD []).isEmpty

/-- The reserved space. -/
def reserveSize (s : KeySigner σ κ) : Nat :=
  baseSize + s.certs.flatten.length + if s.usesTimeAuthority then timestampSize else 0

/-- What is logged about a new signer. -/
def loadedLine (s : KeySigner σ κ) : Text :=
  txt "Loaded " ++ s.alg.name ++ txt " signer with " ++ Text.ofNat s.certs.length
    ++ txt " certificate(s), reserving " ++ Text.ofNat s.reserveSize ++ txt " bytes"

/-- A copy of a signer that carries a revocation response. -/
def withOcsp (s : KeySigner σ κ) (response : Bytes) : Except Failure (KeySigner σ κ) := do
  let accepted ← acceptOcsp response s.chain.own.serial
  return { s with ocsp := some accepted }

/-- A signer from a key and certificates.  An empty revocation response is none. -/
def assemble [DecidableEq κ] (key : PrivateKey σ κ) (certs : List (Certificate κ))
    (alg : Algorithm) (tsaUrl : Option Text) (ocsp : Option Bytes) :
    Except Failure (KeySigner σ κ) := do
  (alg.suits key.family).mapError Failure.credential
  let chain ← orderChain key.publicKey certs
  let s : KeySigner σ κ := ⟨key, alg, tsaUrl, chain, none⟩
  match ocsp with
  | none | some [] => return s
  | some response => s.withOcsp response

/-- Builds a signer from a key and certificates. -/
def build [DecidableEq κ] (key : PrivateKey σ κ) (certs : List (Certificate κ))
    (alg : Algorithm) (tsaUrl : Option Text) (ocsp : Option Bytes) :
    Operation σ (KeySigner σ κ) := do
  let s ← Operation.ofExcept id (assemble key certs alg tsaUrl ocsp)
  Operation.log .debug s.loadedLine
  return s

/-! ### Signing -/

/-- How the key is used. -/
def keyUse (s : KeySigner σ κ) : KeyUse :=
  match s.alg.family, s.alg.hash? with
  | .ecdsa, some h => .ecdsa h
  | .rsaPss, some h => .pss h h h.digestSize
  | _, _ => .plain

/-- The faults of a key that are reported as failures to sign. -/
def isSigningFault (f : Fault) : Bool :=
  f.kind.isValue || f.kind = .type || f.kind = .unsupportedAlgorithm

/-- What the key answers. -/
def useKey (s : KeySigner σ κ) (data : Bytes) : Action σ Bytes := fun state =>
  match s.key.sign s.keyUse data state with
  | (.ok signature, state) => (.ok signature, state)
  | (.error f, state) =>
      (.error (if isSigningFault f then .keyUse s.alg (some f) else .fault f), state)

/-- The two numbers of a signature on an elliptic curve. -/
def coordinates? (signature : Bytes) : Option (Int × Int) := do
  let (whole, _) ← Ber.first? signature
  match ← whole.record? [.required, .required] with
  | [some r, some s] => some (← r.integer?, ← s.integer?)
  | _ => none

/-- A number in exactly `width` bytes. -/
def fixedWidth (width : Nat) (n : Int) : Except Failure Bytes :=
  if n < 0 then .error (.coordinate true)
  else if Bytes.count width ≤ n.toNat then .error (.coordinate false)
  else .ok (Bytes.ofNat width n.toNat)

/-- The size in bytes of a number of `bits` bits. -/
def widthOfBits (bits : Int) : Int := (bits + 7) / 8

/-- A signature on an elliptic curve as two numbers of equal width. -/
def plainCoordinates (alg : Algorithm) (bits : Int) (signature : Bytes) : Except Failure Bytes :=
  match coordinates? signature with
  | none => .error (.keyUse alg none)
  | some (r, s) =>
      if widthOfBits bits < 0 then .error (.keyUse alg none)
      else do
        let first ← fixedWidth (widthOfBits bits).toNat r
        let second ← fixedWidth (widthOfBits bits).toNat s
        return first ++ second

/-- The form in which a signature of the key is given out. -/
def finished (s : KeySigner σ κ) (signature : Bytes) : Except Failure Bytes :=
  match s.alg.family, s.key.family with
  | .ecdsa, .elliptic _ bits => plainCoordinates s.alg bits signature
  | _, _ => .ok signature

/-- Signs a claim. -/
def sign (s : KeySigner σ κ) (data : Bytes) : Action σ Bytes := do
  let answer ← s.useKey data
  match s.finished answer with
  | .error f => throw f
  | .ok signature =>
      match checkSize signature s.reserveSize with
      | .error f => throw f
      | .ok signature => return signature

/-- What a signer with a private key can do. -/
def toSigner (s : KeySigner σ κ) : Signer σ where
  sign := s.sign
  alg := pure (some s.alg.name)
  certs := pure s.certs
  reserveSize := pure s.reserveSize
  timeAuthorityUrl := pure s.tsaUrl
  ocspVal := pure s.ocsp

end KeySigner

end ClaimSeal

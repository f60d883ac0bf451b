import ClaimSeal.Ecdsa
import ClaimSeal.Key
import ClaimSeal.Key.Public

/-!
**Private keys.**

A private key is encoded in a form of its own family or, together with its algorithm, in a common
form.  The numbers of a key have to belong together: the public point to the secret number, the
primes to the modulus.

Main definitions:

* `KeyMaterial` — private keys;
* `KeyMaterial.ellipticReader`, `KeyMaterial.rsaReader`, `KeyMaterial.dsaReader` — the forms by
  family;
* `KeyMaterial.reader` — the common form;
* `KeyMaterial.toPrivateKey` — what a key can do.
-/

set_option autoImplicit false

namespace ClaimSeal

/-- A private key.  Keys of families that sign nothing here carry nothing. -/
inductive KeyMaterial where
  | elliptic (curve : Curve.Name) (secret : Nat) (point : Curve.Point)
  | rsa (key : Rsa.PrivateKey)
  | ed25519 (seed : Bytes)
  | other
deriving DecidableEq

namespace KeyMaterial

open Der

/-! ### Forms by family -/

/-- The curve that is given outside and inside of a key; if both give it they have to agree. -/
def agreed (outer inner : Option Curve.Parameters) : Option Curve.Parameters :=
  match outer, inner with
  | some a, some b => if a = b then some a else none
  | some a, none | none, some a => some a
  | none, none => none

/-- A key on an elliptic curve, whose curve may be known already.  The secret number is written in
as many bytes as the order takes. -/
def ellipticReader (outer : Option Curve.Parameters) : Reader KeyMaterial := record do
  require ((← small) = 1)
  let secret ← octets
  let inner ← perhaps (contextCompound 0) (explicit 0 Curve.Parameters.reader)
  let encoded ← perhaps (contextCompound 1) (explicit 1 bits)
  let curve ← given ((agreed outer inner).bind Curve.Parameters.name?)
  let domain := curve.domain
  require (secret.length = Bytes.widthOf domain.order)
  let secret := Bytes.toNat secret
  require (0 < secret && secret < domain.order)
  let point ← given (domain.multiply? secret domain.generator)
  match encoded with
  | none => pure ()
  | some b => require (domain.decode? b = some point)
  pure (elliptic curve secret point)

/-- An RSA key with two primes. -/
def rsaReader : Reader KeyMaterial := record do
  require ((← small) = 0)
  let n ← natural
  let e ← natural
  let d ← natural
  let p ← natural
  let q ← natural
  let dp ← natural
  let dq ← natural
  let c ← natural
  let key : Rsa.PrivateKey := ⟨⟨n, e⟩, d, p, q, dp, dq, c⟩
  require key.consistent
  pure (rsa key)

/-- A key in the multiplicative group of a prime field. -/
def dsaReader : Reader KeyMaterial := record do
  require ((← small) = 0)
  let _ ← natural
  let _ ← natural
  let _ ← natural
  let _ ← natural
  let _ ← natural
  pure other

/-! ### The common form -/

/-- The sizes in bits that the modulus of an agreement key may have. -/
def isAgreementSize (bits : Nat) : Bool := 512 ≤ bits && bits ≤ 10000

/-- Whether agreement keys can be made in a group: the modulus is odd and of a fair size, and the
order of the subgroup is not too large. -/
def isAgreementGroup (p : Nat) (q : Option Nat) : Bool :=
  p % 2 = 1 && isAgreementSize (Nat.log2 p + 1) && (q.all fun q => Nat.log2 q + 1 ≤ 10000)

/-- A key that is a plain byte string.  A seed has a tag of its own. -/
def rawReader (key : RawKey) : Reader KeyMaterial := do
  let secret ← if key.isSeed then contents (context 0) else octets
  require (secret.length = key.secretSize)
  pure (if key = .ed25519 then ed25519 secret else other)

/-- Whether a public number goes with a secret one: it is a power modulo `p`, and nothing but an
empty power can be taken modulo zero. -/
def hasPublicNumber (p secret : Nat) : Bool := 0 < p || secret = 0

/-- What an algorithm makes of the bytes of a key. -/
def ofContents? (algorithm : AlgorithmId) (contents : Bytes) : Option KeyMaterial :=
  match algorithm with
  | .elliptic curve => whole? (ellipticReader (some curve)) contents
  | .rsa => whole? rsaReader contents
  | .dsa p _ _ => do
      let secret ← whole? natural contents
      if hasPublicNumber p secret then some other else none
  | .agreement p _ q =>
      if isAgreementGroup p q then (whole? natural contents).map fun _ => other else none
  | .raw key => whole? (rawReader key) contents
  | _ => none

/-- An extra attribute of a key: an object identifier with a set of values. -/
def extra : Reader Unit := record do
  let _ ← objectId
  let _ ← setOf any

/-- A key together with its algorithm. -/
def reader : Reader KeyMaterial := record do
  require ((← small) = 0)
  let algorithm ← AlgorithmId.reader
  let contents ← octets
  let _ ← perhaps (contextCompound 0) (inside (contextCompound 0) (sorted extra))
  given (ofContents? algorithm contents)

/-! ### Use -/

/-- The public key. -/
def publicKey : KeyMaterial → PublicKey
  | elliptic curve _ point => .elliptic curve point
  | rsa key => .rsa key.publicKey
  | ed25519 seed => .ed25519 (Ed25519.publicKey seed)
  | other => .other []

/-- The family of a key. -/
def family : KeyMaterial → KeyFamily
  | elliptic curve _ _ => .elliptic curve.text curve.domain.size
  | rsa key => .rsa key.publicKey.size
  | ed25519 _ => .edwards
  | other => .other

/-- The signature of a message, if the key can be used in the given way. -/
def sign? (key : KeyMaterial) (use : KeyUse) (message : Bytes) : Option Bytes :=
  match key, use with
  | elliptic curve secret _, .ecdsa h => do
      let (r, s) ← Ecdsa.sign? curve.domain h secret message
      some (encodeSequence [encodeInteger r, encodeInteger s])
  | rsa key, .pss digest mask salt => key.sign? digest mask salt message
  | ed25519 seed, .plain => some (Ed25519.sign seed message)
  | _, _ => none

/-- The fault of a key that is used in a way that is not its own. -/
def misuse : Fault := ⟨.type, []⟩

/-- What a key can do. -/
def toPrivateKey {σ : Type} (key : KeyMaterial) : PrivateKey σ PublicKey where
  family := key.family
  publicKey := key.publicKey
  sign use message :=
    match key.sign? use message with
    | some signature => pure signature
    | none => throw misuse

end KeyMaterial

end ClaimSeal

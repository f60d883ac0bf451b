import ClaimSeal.Async
import ClaimSeal.Config

/-!
**Signers as objects that share lists.**

A value does not change, but a list that several objects refer to may be changed by any of them.  A
signer with a private key refers to the list of its certificates, a copy of it refers to the same
list, and callers get lists in two ways: as the answer of a signer about its certificates, and with
a signed claim.  Here lists and signers are told apart by where they are, and callers may change
every list that they have got.

Main definitions:

* `Heap`, `Heap.Method` — the objects, and what works on them;
* `Heap.Method.certs`, `Heap.Method.withOcsp`, `Heap.Method.signBytes` — methods of signers, step by
  step;
* `Heap.Command`, `Heap.run` — what callers may do with the objects they have got;
* `Heap.view` — what a signer answers.
-/

set_option autoImplicit false

namespace ClaimSeal

variable {σ κ α : Type}

/-- A signer with a private key as an object: what it was made of, and where the list of its
certificates is.  The reserved space is told by what it was made of, not by that list. -/
structure SignerObject (σ κ : Type) where
  parts : KeySigner σ κ
  certs : Nat

/-- A signer as an object, with a revocation response. -/
def SignerObject.withResponse (o : SignerObject σ κ) (response : Bytes) : SignerObject σ κ :=
  { o with parts := { o.parts with ocsp := some response } }

/-- A signed claim as an object: its list of certificates is somewhere. -/
structure ClaimObject where
  signature : Bytes
  alg : Option Text
  certs : Nat
  reserveSize : Int
  timeAuthorityUrl : Option Text
  ocspVal : Option Bytes

/-- A signed claim as an object, whose list is at a given place. -/
def ClaimObject.of (claim : SignedClaim) (certs : Nat) : ClaimObject where
  signature := claim.signature
  alg := claim.alg
  certs
  reserveSize := claim.reserveSize
  timeAuthorityUrl := claim.timeAuthorityUrl
  ocspVal := claim.ocspVal

/-- The lists and the signers that there are, the lists and the signed claims that callers have got,
and the world. -/
structure Heap (σ κ : Type) where
  lists : List (List Bytes)
  signers : List (SignerObject σ κ)
  held : List Nat
  claims : List ClaimObject
  world : World σ

namespace Heap

/-- One signer, with the list of its certificates. -/
def start (s : KeySigner σ κ) (w : World σ) : Heap σ κ := ⟨[s.certs], [⟨s, 0⟩], [], [], w⟩

/-- What works on objects. -/
abbrev Method (σ κ α : Type) := ExceptT Failure (StateM (Heap σ κ)) α

namespace Method

/-! ### Objects -/

/-- What is somewhere, if anything is. -/
def found : Option α → Method σ κ α
  | some a => return a
  | none => throw (.fault ⟨.lookup, []⟩)

/-- An operation, which does not see the objects. -/
def lift (o : Operation σ α) : Method σ κ α := fun h =>
  match o h.world with
  | (r, world) => (r, { h with world })

/-- A signer. -/
def signer (j : Nat) : Method σ κ (SignerObject σ κ) := do found (← get).signers[j]?

/-- What is in a list. -/
def content (r : Nat) : Method σ κ (List Bytes) := do found (← get).lists[r]?

/-- A new list. -/
def newList (content : List Bytes) : Method σ κ Nat :=
  modifyGet fun h => (h.lists.length, { h with lists := h.lists ++ [content] })

/-- Changes a list. -/
def setList (r : Nat) (content : List Bytes) : Method σ κ Unit :=
  modify fun h => { h with lists := h.lists.set r content }

/-- A copy of a signer, which refers to the same list. -/
def copy (j : Nat) : Method σ κ Nat := do
  let o ← signer j
  modifyGet fun h => (h.signers.length, { h with signers := h.signers ++ [o] })

/-- Assigns the revocation response of a signer. -/
def assignOcsp (j : Nat) (response : Bytes) : Method σ κ Unit := do
  let o ← signer j
  modify fun h => { h with signers := h.signers.set j (o.withResponse response) }

/-! ### Methods of signers -/

def alg (j : Nat) : Method σ κ (Option Text) := return some (← signer j).parts.alg.name

/-- The certificates of a signer, as a list of their own. -/
def certs (j : Nat) : Method σ κ Nat := do newList (← content (← signer j).certs)

def reserveSize (j : Nat) : Method σ κ Int := return (← signer j).parts.reserveSize

def timeAuthorityUrl (j : Nat) : Method σ κ (Option Text) := return (← signer j).parts.tsaUrl

def ocspVal (j : Nat) : Method σ κ (Option Bytes) := return (← signer j).parts.ocsp

def sign (j : Nat) (data : Bytes) : Method σ κ Bytes := do
  lift (Operation.act ((← signer j).parts.sign data))

/-- Signs a claim and checks the size. -/
def signClaim (j : Nat) (data : Bytes) : Method σ κ Bytes := do
  lift ((← signer j).parts.toSigner.signClaim data)

/-- The same in a worker. -/
def signInWorker (j : Nat) (data : Bytes) : Method σ κ Bytes := do
  lift ((← signer j).parts.toSigner.threaded.signClaim data)

/-- Signs several claims in workers, in the given order. -/
def gatherIn (j : Nat) (order : List Nat) (claims : List Bytes) : Method σ κ (List Bytes) := do
  lift ((← signer j).parts.toSigner.threaded.gatherIn order claims)

/-- A copy of a signer that carries a revocation response.  The copy is made first. -/
def withOcsp (j : Nat) (response : Bytes) : Method σ κ Nat := do
  let t ← copy j
  let serial := (← signer j).parts.chain.own.serial
  let accepted ← lift (Operation.ofExcept id (acceptOcsp response serial))
  assignOcsp t accepted
  return t

/-- Signs a claim in memory, with any configuration that has the signer. -/
def signBytes (j : Nat) (data : Bytes) : Method σ κ ClaimObject := do
  let reserveSize ← reserveSize j
  let certs ← certs j
  let alg ← alg j
  let signature ← signClaim j data
  let timeAuthorityUrl ← timeAuthorityUrl j
  let ocspVal ← ocspVal j
  return { signature, alg, certs, reserveSize, timeAuthorityUrl, ocspVal }

/-- Signs a claim in a file, with any configuration that has the signer. -/
def signFile (j : Nat) (claim signature : PathArg) : Method σ κ ClaimObject := do
  let claimPath ← lift (Operation.path claim)
  let data ← lift (Operation.readFile claimPath)
  let signed ← signBytes j data
  let signaturePath ← lift (Operation.path signature)
  lift (Operation.writeFile signaturePath signed.signature)
  lift (Operation.log .info (Config.wroteLine claim signature))
  return signed

/-! ### What callers have got -/

/-- A caller gets a list. -/
def hold (r : Nat) : Method σ κ Unit := modify fun h => { h with held := h.held ++ [r] }

/-- A caller gets a signed claim. -/
def holdClaim (c : ClaimObject) : Method σ κ Unit :=
  modify fun h => { h with claims := h.claims ++ [c] }

end Method

/-- What a caller may do: call a method of a signer, keeping what it gives, or change a list that it
has got before or that is in a signed claim. -/
inductive Command where
  | certs (j : Nat)
  | sign (j : Nat) (data : Bytes)
  | signClaim (j : Nat) (data : Bytes)
  | signInWorker (j : Nat) (data : Bytes)
  | gatherIn (j : Nat) (order : List Nat) (claims : List Bytes)
  | withOcsp (j : Nat) (response : Bytes)
  | signBytes (j : Nat) (data : Bytes)
  | signFile (j : Nat) (claim signature : PathArg)
  | change (k : Nat) (content : List Bytes)
  | changeClaim (k : Nat) (content : List Bytes)

/-- What a caller does. -/
def Command.method : Command → Method σ κ Unit
  | certs j => do Method.hold (← Method.certs j)
  | sign j data => do let _ ← Method.sign j data
  | signClaim j data => do let _ ← Method.signClaim j data
  | signInWorker j data => do let _ ← Method.signInWorker j data
  | gatherIn j order claims => do let _ ← Method.gatherIn j order claims
  | withOcsp j response => do let _ ← Method.withOcsp j response
  | signBytes j data => do Method.holdClaim (← Method.signBytes j data)
  | signFile j claim signature => do Method.holdClaim (← Method.signFile j claim signature)
  | change k content => do Method.setList (← Method.found (← get).held[k]?) content
  | changeClaim k content => do
      Method.setList (← Method.found (← get).claims[k]?).certs content

/-- One thing after another, whether it fails or not. -/
def run (commands : List Command) (h : Heap σ κ) : Heap σ κ :=
  commands.foldl (fun h command => (command.method h).2) h

/-! ### What signers answer -/

/-- What a signer answers. -/
structure View where
  alg : Option Text
  certs : List Bytes
  reserveSize : Int
  timeAuthorityUrl : Option Text
  ocspVal : Option Bytes
deriving DecidableEq

/-- Asks a signer for everything. -/
def Method.view (j : Nat) : Method σ κ View := do
  let alg ← alg j
  let certs ← content (← certs j)
  let reserveSize ← reserveSize j
  let timeAuthorityUrl ← timeAuthorityUrl j
  let ocspVal ← ocspVal j
  return { alg, certs, reserveSize, timeAuthorityUrl, ocspVal }

/-- What a signer answers. -/
def view (h : Heap σ κ) (j : Nat) : Except Failure View := (Method.view j h).1

end Heap

/-- What a signer with a private key answers. -/
def KeySigner.view (s : KeySigner σ κ) : Heap.View where
  alg := some s.alg.name
  certs := s.certs
  reserveSize := s.reserveSize
  timeAuthorityUrl := s.tsaUrl
  ocspVal := s.ocsp

end ClaimSeal

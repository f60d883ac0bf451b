import ClaimSeal.Signer

/-!
**Signers that do not block.**

A signer of this kind has two capabilities only: to reserve space and to sign.  Signing is put off,
either to a worker or to the next turn of the caller.  Of several requests made together all
reservations are read first; then the signatures are made in some order, and a failure of one
request does not keep the others from being made.  Only an interruption does, and it does not reach
a worker.

What a worker fails with is handed on by its future, which does not keep every failure as it is.

Main definitions:

* `AsyncSigner`, `AsyncSigner.placeholder`, `Signer.threaded` — such signers;
* `AsyncSigner.signClaimUnder`, `AsyncSigner.signClaim` — signing with the size check;
* `AsyncSigner.gather` — several requests together.
-/

set_option autoImplicit false

namespace ClaimSeal

/-- A signer that does not block; `inWorker` tells that signing is put off to a worker. -/
structure AsyncSigner (σ : Type) where
  sign : Bytes → Action σ Bytes
  reserveSize : Action σ Int
  inWorker : Bool

variable {σ : Type}

/-- A signer that always returns the same invalid signature. -/
def AsyncSigner.placeholder : AsyncSigner σ where
  sign _ := pure invalidSignature
  reserveSize := pure placeholderSize
  inWorker := false

/-- What an action gives when a worker does it: a failure is handed on by the worker's future. -/
def Action.delivered {α : Type} (a : Action σ α) : Action σ α := fun b =>
  match a b with
  | (r, b) => (r.mapError Failure.delivered, b)

/-- Puts the work of a signer off to a worker. -/
def Signer.threaded (s : Signer σ) : AsyncSigner σ where
  sign data := Action.delivered (s.sign data)
  reserveSize := s.reserveSize
  inWorker := true

namespace AsyncSigner

/-- Signs a claim and checks that the signature fits into the space reserved before. -/
def signClaimUnder (limit : DigitLimit) (s : AsyncSigner σ) (data : Bytes) : Operation σ Bytes := do
  let reserved ← Operation.act s.reserveSize
  signWithinUnder limit s.sign data reserved

/-- The same where every number may be written. -/
def signClaim (s : AsyncSigner σ) (data : Bytes) : Operation σ Bytes := s.signClaimUnder 0 data

/-! ### Several requests -/

/-- How far a request has come. -/
inductive Request where
  | done (result : Except Failure Bytes)
  | waiting (data : Bytes) (reserved : Int)

/-- Starts a request: reads the reservation. -/
def start (s : AsyncSigner σ) (data : Bytes) : Operation σ Request := do
  match ← Operation.outcome (Operation.act s.reserveSize) with
  | .error f => if f.stopsAll then throw f else pure (.done (.error f))
  | .ok reserved => pure (.waiting data reserved)

/-- Finishes a request: makes the signature, unless that has failed already. -/
def finish (s : AsyncSigner σ) : Request → Operation σ (Except Failure Bytes)
  | .done r => pure r
  | .waiting data reserved => do
      match ← Operation.outcome (signWithin s.sign data reserved) with
      | .error f => if f.stopsAll && !s.inWorker then throw f else pure (.error f)
      | .ok signature => pure (.ok signature)

/-- The first failure of a list of requests that are done. -/
def firstFailure? : List Request → Option Failure
  | [] => none
  | .done (.error f) :: _ => some f
  | _ :: rest => firstFailure? rest

/-- Finishes the requests at the given places, in that order. -/
def finishAt (s : AsyncSigner σ) : List Nat → List Request → Operation σ (List Request)
  | [], requests => pure requests
  | i :: rest, requests =>
      match requests[i]? with
      | none => finishAt s rest requests
      | some r => do
          let result ← finish s r
          finishAt s rest (requests.set i (.done result))

/-- The result of a request that is done. -/
def Request.result : Request → Except Failure Bytes
  | .done r => r
  | .waiting _ _ => .ok []

/-- Signs several claims together; the signatures are made in the given order.  A failure on the way
is the failure of the whole. -/
def gatherIn (s : AsyncSigner σ) (order : List Nat) (claims : List Bytes) :
    Operation σ (List Bytes) := do
  let started ← claims.mapM s.start
  let finished ← finishAt s order started
  match firstFailure? started <|> firstFailure? finished with
  | some f => throw f
  | none => Operation.ofExcept id (finished.mapM Request.result)

/-- Signs several claims together; the signatures are made as they were requested. -/
def gather (s : AsyncSigner σ) (claims : List Bytes) : Operation σ (List Bytes) :=
  s.gatherIn (List.range claims.length) claims

end AsyncSigner

end ClaimSeal

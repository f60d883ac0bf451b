import ClaimSeal.Async

/-!
**Requests that take turns.**

A request to a signer whose work is put off to workers comes to its result in three turns: its
caller reads the reservation and hands the claim over, a worker makes the signature, and the caller
takes the answer, which it classifies, logs and checks.  Each turn is made as a whole; between the
turns of one request those of others may come, in any order.

Main definitions:

* `AsyncSigner.Stage`, `AsyncSigner.Gathering` — how far requests have come;
* `AsyncSigner.conclude`, `AsyncSigner.turn` — what one turn does;
* `AsyncSigner.runIn` — turns in a given order;
* `Signer.recorded` — a signer that records which of its methods are called.
-/

set_option autoImplicit false

namespace ClaimSeal

variable {σ : Type}

namespace AsyncSigner

/-- How far a request has come.  One that is done knows the reservation that was read for it, if
that could be read. -/
inductive Stage where
  | waiting (data : Bytes)
  | handedOver (data : Bytes) (reserved : Int)
  | answered (data : Bytes) (reserved : Int) (answer : Except Failure Bytes)
  | done (reserved : Option Int) (result : Except Failure Bytes)

/-- Several requests, and the world that they are made in. -/
structure Gathering (σ : Type) where
  stages : List Stage
  world : World σ

/-- Several requests before their first turns. -/
def Gathering.start (claims : List Bytes) (w : World σ) : Gathering σ :=
  ⟨claims.map .waiting, w⟩

/-- All requests are done and gave values: the reservations that were read and the signatures. -/
def Gathering.Gave (g : Gathering σ) (answers : List (Int × Bytes)) : Prop :=
  g.stages = answers.map fun a => .done (some a.1) (.ok a.2)

/-- What the caller makes of an answer. -/
def conclude (data : Bytes) (reserved : Int) : Except Failure Bytes → Operation σ Bytes
  | .error f =>
      if f.isSigning then throw f
      else if f.isOrdinary then throw (.signing f)
      else throw f
  | .ok signature => do
      Operation.log .debug (signedLine data signature reserved)
      Operation.ofExcept id (checkSize signature reserved)

/-- One turn of a request. -/
def turn (s : AsyncSigner σ) : Stage → World σ → Stage × World σ
  | .waiting data, w =>
      match Operation.act s.reserveSize w with
      | (.error f, w) => (.done none (.error f), w)
      | (.ok reserved, w) => (.handedOver data reserved, w)
  | .handedOver data reserved, w =>
      match Operation.act (s.sign data) w with
      | (answer, w) => (.answered data reserved answer, w)
  | .answered data reserved answer, w =>
      match conclude data reserved answer w with
      | (result, w) => (.done (some reserved) result, w)
  | .done reserved result, w => (.done reserved result, w)

/-- A turn of the request at a given place. -/
def turnAt (s : AsyncSigner σ) (g : Gathering σ) (i : Nat) : Gathering σ :=
  match g.stages[i]? with
  | none => g
  | some stage =>
      match s.turn stage g.world with
      | (stage, world) => ⟨g.stages.set i stage, world⟩

/-- Turns of the requests at the given places, in that order. -/
def runIn (s : AsyncSigner σ) (schedule : List Nat) (g : Gathering σ) : Gathering σ :=
  schedule.foldl s.turnAt g

end AsyncSigner

/-! ### Recording the calls -/

/-- A call of a signer's method. -/
inductive Call where
  | sign (data : Bytes)
  | alg
  | certs
  | reserveSize
  | timeAuthorityUrl
  | ocspVal
deriving DecidableEq

/-- An action that also records that it was called. -/
def Call.record {α : Type} (call : Call) (a : Action σ α) : Action (σ × List Call) α :=
  fun (b, calls) =>
    match a b with
    | (r, b) => (r, (b, calls ++ [call]))

/-- A signer that records which of its methods are called. -/
def Signer.recorded (s : Signer σ) : Signer (σ × List Call) where
  sign data := (Call.sign data).record (s.sign data)
  alg := Call.alg.record s.alg
  certs := Call.certs.record s.certs
  reserveSize := Call.reserveSize.record s.reserveSize
  timeAuthorityUrl := Call.timeAuthorityUrl.record s.timeAuthorityUrl
  ocspVal := Call.ocspVal.record s.ocspVal

/-- A world without what was recorded in it. -/
def World.unrecorded (w : World (σ × List Call)) : World σ := { w with backend := w.backend.1 }

end ClaimSeal

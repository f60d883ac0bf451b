import ClaimSeal.Conversation
import ClaimSeal.Sources

/-!
**One key, and all that signs with it.**

A private key is handed to a signer when that is built, and copies of a signer share it.  Around
signers there are workers and configurations, and a worker has requests on their way to it.  The key
can be reached through all of them.  Here a key records how it is used, and everything that can be
done with such objects is written down as a command.

Main definitions:

* `Use`, `PrivateKey.recorded` — uses of a key, and a key that records them;
* `Algorithm.use` — how a key is used for an algorithm;
* `Custody`, `Custody.Command`, `Custody.step`, `Custody.run` — a key with all that signs with it,
  and what can be done with them;
* `Custody.submitted` — the claims that are submitted for signing;
* `Custody.requested`, `Custody.submittedAt`, `Custody.outstanding` — what requests are made for,
  what they submit, and what they have yet to submit.
-/

set_option autoImplicit false

namespace ClaimSeal

variable {σ κ α γ : Type}

/-! ### Uses of a key -/

/-- A use of a key: in which way it was used, and for which message. -/
structure Use where
  way : KeyUse
  message : Bytes
deriving DecidableEq

/-- A key that records its uses, also those that fail. -/
def PrivateKey.recorded (key : PrivateKey σ κ) : PrivateKey (σ × List Use) κ where
  family := key.family
  publicKey := key.publicKey
  sign way message := fun (b, uses) =>
    match key.sign way message b with
    | (r, b) => (r, (b, uses ++ [⟨way, message⟩]))

/-- A signer whose key records its uses. -/
def KeySigner.recorded (s : KeySigner σ κ) : KeySigner (σ × List Use) κ :=
  { s with key := s.key.recorded }

/-- In which way a key is used for an algorithm. -/
def Algorithm.use : Algorithm → KeyUse
  | es256 => .ecdsa .sha256
  | es384 => .ecdsa .sha384
  | es512 => .ecdsa .sha512
  | ps256 => .pss .sha256 .sha256 32
  | ps384 => .pss .sha384 .sha384 48
  | ps512 => .pss .sha512 .sha512 64
  | ed25519 => .plain

/-- A claim that is submitted for signing, and the algorithm of the signer. -/
structure Submission where
  alg : Algorithm
  claim : Bytes
deriving DecidableEq

/-- What a key has to be used for. -/
def Submission.use (s : Submission) : Use := ⟨s.alg.use, s.claim⟩

/-- A claim that is submitted to a signer. -/
def KeySigner.submission (s : KeySigner σ κ) (claim : Bytes) : Submission := ⟨s.alg, claim⟩

/-! ### All that signs with a key -/

/-- A key, the signers and the workers that have it, the configurations with the signers that are
set for them (none for a placeholder), the requests to workers with how far they have come, and the
world. -/
structure Custody (σ κ : Type) where
  key : PrivateKey σ κ
  signers : List (KeySigner (σ × List Use) κ)
  workers : List (KeySigner (σ × List Use) κ)
  configs : List (Option (KeySigner (σ × List Use) κ))
  requests : List (KeySigner (σ × List Use) κ × AsyncSigner.Stage)
  world : World (σ × List Use)

namespace Custody

/-- One signer, and nothing recorded. -/
def start (s : KeySigner σ κ) (w : World σ) : Custody σ κ where
  key := s.key
  signers := [s.recorded]
  workers := []
  configs := []
  requests := []
  world := ⟨w.files, w.log, (w.backend, [])⟩

/-- The uses of the key that have been recorded. -/
def uses (d : Custody σ κ) : List Use := d.world.backend.2

/-- The configuration at a place. -/
def config? (d : Custody σ κ) (c : Nat) : Option (Config (σ × List Use)) :=
  (d.configs[c]?).map fun
    | none => Config.initial
    | some s => Config.initial.useSigner s.toSigner

/-- A new signer, if there is one. -/
def add (d : Custody σ κ) : Option (KeySigner (σ × List Use) κ) → Custody σ κ
  | none => d
  | some s => { d with signers := d.signers ++ [s] }

/-- Works with what is found, if anything is. -/
def workWith (d : Custody σ κ) (found : Option γ) (work : γ → Operation (σ × List Use) α) :
    Custody σ κ :=
  match found with
  | none => d
  | some g => { d with world := (work g d.world).2 }

/-- What can be done.  Objects are told by their places; what is done with one that is not there
does nothing. -/
inductive Command (κ : Type) where
  | build (certs : List (Certificate κ)) (alg : Algorithm) (tsaUrl : Option Text)
      (ocsp : Option Bytes)
  | withOcsp (j : Nat) (response : Bytes)
  | call (j : Nat) (call : Call)
  | signClaim (j : Nat) (claim : Bytes)
  | hire (j : Nat)
  | reserveInWorker (t : Nat)
  | signInWorker (t : Nat) (claim : Bytes)
  | asyncSignClaim (t : Nat) (claim : Bytes)
  | request (t : Nat) (claim : Bytes)
  | turn (i : Nat)
  | configure
  | useSigner (c j : Nat)
  | usePlaceholder (c : Nat)
  | signBytes (c : Nat) (claim : Bytes)
  | signFile (c : Nat) (claim signature : PathArg)

/-- Does something, whether it fails or not. -/
def step [DecidableEq κ] (d : Custody σ κ) : Command κ → Custody σ κ
  | .build certs alg tsaUrl ocsp =>
      match KeySigner.build d.key.recorded certs alg tsaUrl ocsp d.world with
      | (r, world) => { d with world }.add r.toOption
  | .withOcsp j response => d.add (d.signers[j]?.bind fun s => (s.withOcsp response).toOption)
  | .call j call => d.workWith d.signers[j]? fun s => Operation.act (s.toSigner.perform call)
  | .signClaim j claim => d.workWith d.signers[j]? fun s => s.toSigner.signClaim claim
  | .hire j => { d with workers := d.workers ++ d.signers[j]?.toList }
  | .reserveInWorker t =>
      d.workWith d.workers[t]? fun s => Operation.act s.toSigner.threaded.reserveSize
  | .signInWorker t claim =>
      d.workWith d.workers[t]? fun s => Operation.act (s.toSigner.threaded.sign claim)
  | .asyncSignClaim t claim => d.workWith d.workers[t]? fun s => s.toSigner.threaded.signClaim claim
  | .request t claim =>
      { d with requests := d.requests ++ d.workers[t]?.toList.map fun s => (s, .waiting claim) }
  | .turn i =>
      match d.requests[i]? with
      | none => d
      | some (s, stage) =>
          match s.toSigner.threaded.turn stage d.world with
          | (stage, world) => { d with requests := d.requests.set i (s, stage), world }
  | .configure => { d with configs := d.configs ++ [none] }
  | .useSigner c j =>
      match d.signers[j]? with
      | none => d
      | some s => { d with configs := d.configs.set c (some s) }
  | .usePlaceholder c => { d with configs := d.configs.set c none }
  | .signBytes c claim => d.workWith (d.config? c) fun g => g.signBytes claim
  | .signFile c claim signature => d.workWith (d.config? c) fun g => g.sign claim signature

/-- One thing after another. -/
def run [DecidableEq κ] (commands : List (Command κ)) (d : Custody σ κ) : Custody σ κ :=
  commands.foldl step d

/-! ### What is submitted -/

/-- What a command submits for signing.  A request submits its claim when a worker takes it, and a
claim in a file that cannot be read is not submitted. -/
def Command.submitted (d : Custody σ κ) : Command κ → List Submission
  | .call j (.sign claim) | .signClaim j claim => d.signers[j]?.toList.map (·.submission claim)
  | .signInWorker t claim | .asyncSignClaim t claim =>
      d.workers[t]?.toList.map (·.submission claim)
  | .turn i =>
      match d.requests[i]? with
      | some (s, .handedOver claim _) => [s.submission claim]
      | _ => []
  | .signBytes c claim =>
      match d.configs[c]? with
      | some (some s) => [s.submission claim]
      | _ => []
  | .signFile c claim _ =>
      match d.configs[c]?, d.world.files.contentAt (fun _ => .file) claim with
      | some (some s), .ok content => [s.submission content]
      | _, _ => []
  | _ => []

/-- What commands submit for signing, in order. -/
def submitted [DecidableEq κ] : List (Command κ) → Custody σ κ → List Submission
  | [], _ => []
  | command :: commands, d => command.submitted d ++ submitted commands (d.step command)

/-! ### What becomes of requests -/

/-- What a request has yet to submit. -/
def pending : KeySigner (σ × List Use) κ × AsyncSigner.Stage → List Submission
  | (s, .waiting claim) | (s, .handedOver claim _) => [s.submission claim]
  | _ => []

/-- What all requests have yet to submit, one after the other. -/
def outstanding (d : Custody σ κ) : List (List Submission) := d.requests.map pending

/-- What a command requests. -/
def Command.requested (d : Custody σ κ) : Command κ → List Submission
  | .request t claim => d.workers[t]?.toList.map (·.submission claim)
  | _ => []

/-- What commands request, in order. -/
def requested [DecidableEq κ] : List (Command κ) → Custody σ κ → List Submission
  | [], _ => []
  | command :: commands, d => command.requested d ++ requested commands (d.step command)

/-- What a command submits of the request at a place. -/
def Command.submittedAt (i : Nat) (d : Custody σ κ) (command : Command κ) : List Submission :=
  match command with
  | .turn j => if j = i then command.submitted d else []
  | _ => []

/-- What commands submit of the request at a place, in order. -/
def submittedAt [DecidableEq κ] (i : Nat) : List (Command κ) → Custody σ κ → List Submission
  | [], _ => []
  | command :: commands, d => command.submittedAt i d ++ submittedAt i commands (d.step command)

end Custody

end ClaimSeal

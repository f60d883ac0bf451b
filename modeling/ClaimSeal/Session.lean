import ClaimSeal.Config

/-!
**Configurations that are used one after another.**

A program may hold any number of configurations and call their methods in any order.  A method works
on its own configuration and on the world, and what it assigned before it failed stays assigned: so
whether a failure keeps the signer depends on where in the method the signer is assigned.

Main definitions:

* `Config.Method` — what works on a configuration and on the world;
* `Config.Command`, `Config.Command.method` — the methods, and what they do step by step;
* `Session`, `Session.step`, `Session.run` — configurations that are used one after another;
* `Session.Event`, `Session.lastSet?` — what happened, and the signer that was set last.
-/

set_option autoImplicit false

namespace ClaimSeal

variable {σ α ι : Type}

namespace Config

/-! ### Methods -/

/-- What works on a configuration and on the world. -/
abbrev Method (σ α : Type) := ExceptT Failure (StateM (Config σ × World σ)) α

namespace Method

/-- An operation, which does not see the configuration. -/
def lift (o : Operation σ α) : Method σ α := fun (c, w) =>
  match o w with
  | (r, w) => (r, (c, w))

/-- Assigns the signer. -/
def assign (s : Signer σ) : Method σ Unit := modify fun (c, w) => (c.useSigner s, w)

/-- Works with the signer that is assigned at the time. -/
def withSigner (f : Signer σ → Operation σ α) : Method σ α := do
  let (c, _) ← get
  lift (f c.signer)

/-- Asks the signer. -/
def ask (question : Signer σ → Action σ α) : Method σ α :=
  withSigner fun s => Operation.act (question s)

/-- A signer that carries the revocation response in a file, if there is one. -/
def attach (s : KeySigner σ PublicKey) : Option PathArg → Method σ (KeySigner σ PublicKey)
  | none => return s
  | some p => do
      let response ← lift (readCredential p)
      lift (Operation.ofExcept id (s.withOcsp response))

/-- The signer that options ask for. -/
def keySigner (o : KeyOptions) : Method σ (KeySigner σ PublicKey) := do
  let s ← lift (KeySigner.ofFiles o.certificate o.privateKey o.alg o.tsaUrl o.password)
  attach s o.ocspResponse

/-- Configures a signer with a private key, which is assigned last. -/
def useKey (o : KeyOptions) : Method σ Unit := do
  let s ← keySigner o
  assign s.toSigner

/-- Signs a claim in memory. -/
def signBytes (data : Bytes) : Method σ SignedClaim := do
  let reserveSize ← ask (·.reserveSize)
  let certs ← ask (·.certs)
  let alg ← ask (·.alg)
  let signature ← withSigner (·.signClaim data)
  let timeAuthorityUrl ← ask (·.timeAuthorityUrl)
  let ocspVal ← ask (·.ocspVal)
  return { signature, alg, certs, reserveSize, timeAuthorityUrl, ocspVal }

/-- Signs a claim in a file and writes the signature to another one. -/
def sign (claim signature : PathArg) : Method σ SignedClaim := do
  let claimPath ← lift (Operation.path claim)
  let data ← lift (Operation.readFile claimPath)
  let signed ← signBytes data
  let signaturePath ← lift (Operation.path signature)
  lift (Operation.writeFile signaturePath signed.signature)
  lift (Operation.log .info (wroteLine claim signature))
  return signed

end Method

/-- A call of a method. -/
inductive Command (σ : Type) where
  | useSigner (s : Signer σ)
  | usePlaceholder
  | useKey (o : KeyOptions)
  | signBytes (data : Bytes)
  | sign (claim signature : PathArg)

/-- What a call gives: the configuration itself or a signed claim. -/
inductive Reply where
  | itself
  | signed (claim : SignedClaim)

namespace Command

/-- What a call does. -/
def method : Command σ → Method σ Reply
  | useSigner s => do
      Method.assign s
      return .itself
  | usePlaceholder => do
      Method.assign .placeholder
      return .itself
  | useKey o => do
      Method.useKey o
      return .itself
  | signBytes data => return .signed (← Method.signBytes data)
  | sign claim signature => return .signed (← Method.sign claim signature)

/-- The signer that a call sets in a given world. -/
def signer? (w : World σ) : Command σ → Option (Signer σ)
  | useSigner s => some s
  | usePlaceholder => some .placeholder
  | useKey o => (keySigner o w).1.toOption.map KeySigner.toSigner
  | signBytes _ | sign _ _ => none

/-- Whether a call is to set the signer; the others sign. -/
def sets : Command σ → Bool
  | useSigner _ | usePlaceholder | useKey _ => true
  | signBytes _ | sign _ _ => false

end Command

end Config

/-! ### Sessions -/

/-- Configurations, and the world that they are used in. -/
structure Session (ι σ : Type) where
  configs : ι → Config σ
  world : World σ

namespace Session

/-- New configurations. -/
def start (w : World σ) : Session ι σ := ⟨fun _ => Config.initial, w⟩

/-- A call that was made: whose method it was, where it started and what came of it. -/
structure Event (ι σ : Type) where
  who : ι
  command : Config.Command σ
  before : World σ
  outcome : Except Failure Config.Reply

/-- The signer that a call has set, if it has set one and did not fail. -/
def Event.set? (e : Event ι σ) : Option (Signer σ) :=
  match e.outcome with
  | .error _ => none
  | .ok _ => e.command.signer? e.before

variable [DecidableEq ι]

/-- Calls a method of a configuration. -/
def step (g : Session ι σ) (i : ι) (command : Config.Command σ) :
    Except Failure Config.Reply × Session ι σ :=
  match command.method (g.configs i, g.world) with
  | (outcome, (c, world)) => (outcome, ⟨fun j => if j = i then c else g.configs j, world⟩)

/-- Calls methods one after another, whether they fail or not; gives what happened and where it
led. -/
def run : List (ι × Config.Command σ) → Session ι σ → List (Event ι σ) × Session ι σ
  | [], g => ([], g)
  | (i, command) :: rest, g =>
      let (outcome, g') := g.step i command
      let (events, last) := run rest g'
      (⟨i, command, g.world, outcome⟩ :: events, last)

/-- The signer that was set last for a configuration. -/
def lastSet? (i : ι) (events : List (Event ι σ)) : Option (Signer σ) :=
  (events.filterMap fun e => if e.who = i then e.set? else none).getLast?

end Session

end ClaimSeal

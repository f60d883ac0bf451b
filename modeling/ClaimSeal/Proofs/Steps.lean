import ClaimSeal.Config
import ClaimSeal.Proofs.Operation

/-!
**What operations inherit from their steps.**

To choose a signer, files are read and lines are logged, and what was read is worked on.  To sign in
memory, the signer is asked besides.  So a property of operations that these steps have, and that is
kept when one operation follows another, is one of choosing a signer and of signing.

Main definitions:

* `Operation.Inherited` — a property that comes from reading and logging;
* `Operation.InheritedWithSigner` — one that comes from reading, logging and asking a signer.

Main results:

* `Operation.Inherited.keySigner` — it is a property of building a signer from files;
* `Operation.InheritedWithSigner.signBytes` — and of signing in memory.
-/

set_option autoImplicit false

namespace ClaimSeal

variable {σ α β : Type}

namespace Operation

/-- A property that operations have if the steps that they are made of have it; the steps are to
read files and to log. -/
structure Inherited (P : (α : Type) → Operation σ α → Prop) : Prop where
  pure : ∀ {α : Type} (a : α), P α (pure a)
  throw : ∀ {α : Type} (f : Failure), P α (throw f)
  log : ∀ (level : Level) (text : Text), P Unit (log level text)
  readFileOr : ∀ (report : FileError → Failure) (p : Path), P Bytes (readFileOr report p)
  bind : ∀ {α β : Type} {o : Operation σ α} {f : α → Operation σ β},
    P α o → (∀ a, P β (f a)) → P β (o >>= f)

/-- The same where a signer may be asked, too. -/
structure InheritedWithSigner (P : (α : Type) → Operation σ α → Prop) : Prop extends
    Inherited P where
  act : ∀ {α : Type} (a : Action σ α), P α (act a)
  outcome : ∀ {α : Type} {o : Operation σ α}, P α o → P (Except Failure α) (outcome o)

variable {P : (α : Type) → Operation σ α → Prop}

/-! ### Choosing a signer -/

namespace Inherited

variable (h : Inherited P)

include h

theorem ofExcept {ε : Type} (failure : ε → Failure) (r : Except ε α) :
    P α (Operation.ofExcept failure r) := by
  cases r with
  | ok a => exact h.pure a
  | error e => exact h.throw (failure e)

theorem readCredential (p : PathArg) : P Bytes (ClaimSeal.readCredential p) :=
  h.bind (h.ofExcept _ _) fun _ => h.bind (h.log _ _) fun _ => h.readFileOr _ _

theorem ofBytes (cert key : Bytes) (alg : Datum) (tsaUrl password : Option Text) :
    P (KeySigner σ PublicKey) (KeySigner.ofBytes cert key alg tsaUrl password) := by
  refine h.bind (h.ofExcept _ _) fun alg => ?_
  cases loadPrivateKey? key password with
  | none => exact h.throw _
  | some material =>
      refine h.bind (h.ofExcept _ _) fun certs => ?_
      refine h.bind (h.ofExcept _ _) fun s => ?_
      exact h.bind (h.log _ _) fun _ => h.pure s

theorem ofFiles (cert key : PathArg) (alg : Datum) (tsaUrl password : Option Text) :
    P (KeySigner σ PublicKey) (KeySigner.ofFiles cert key alg tsaUrl password) :=
  h.bind (h.readCredential _) fun _ => h.bind (h.readCredential _) fun _ => h.ofBytes _ _ _ _ _

theorem keySigner (o : KeyOptions) : P (KeySigner σ PublicKey) (Config.keySigner o) := by
  refine h.bind (h.ofFiles _ _ _ _ _) fun s => ?_
  cases o.ocspResponse with
  | none => exact h.pure s
  | some p => exact h.bind (h.readCredential p) fun _ => h.ofExcept _ _

theorem useKey (c : Config σ) (o : KeyOptions) : P (Config σ) (c.useKey o) :=
  h.bind (h.keySigner o) fun _ => h.pure _

end Inherited

/-! ### Signing in memory -/

namespace InheritedWithSigner

variable (h : InheritedWithSigner P)

include h

theorem signWithinUnder (limit : DigitLimit) (sign : Bytes → Action σ Bytes) (data : Bytes)
    (reserved : Int) : P Bytes (ClaimSeal.signWithinUnder limit sign data reserved) := by
  refine h.bind (h.outcome (h.act _)) fun answer => ?_
  cases answer with
  | error f => exact h.throw _
  | ok signature =>
      exact h.bind (h.ofExcept _ _) fun _ => h.bind (h.log _ _) fun _ => h.ofExcept _ _

theorem signClaim (s : Signer σ) (data : Bytes) : P Bytes (s.signClaim data) :=
  h.bind (h.act _) fun _ => h.signWithinUnder 0 _ _ _

theorem signBytesUnder (limit : DigitLimit) (c : Config σ) (data : Bytes) :
    P SignedClaim (c.signBytesUnder limit data) := by
  refine h.bind (h.act _) fun _ => h.bind (h.act _) fun _ => h.bind (h.act _) fun _ => ?_
  refine h.bind (h.bind (h.act _) fun _ => h.signWithinUnder limit _ _ _) fun _ => ?_
  exact h.bind (h.act _) fun _ => h.bind (h.act _) fun _ => h.pure _

theorem signBytes (c : Config σ) (data : Bytes) : P SignedClaim (c.signBytes data) :=
  h.signBytesUnder 0 c data

end InheritedWithSigner

end Operation

end ClaimSeal

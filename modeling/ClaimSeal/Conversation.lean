import ClaimSeal.Config
import ClaimSeal.Workers

/-!
**What a signer is asked, and what it answers.**

A signer is used by calling its methods one after another.  To sign a claim in memory, seven calls
are made in a fixed order: the metadata is asked for, then the reservation again, then the
signature, and then the rest of the metadata.

Main definitions:

* `Answer`, `Signer.perform` — a call of any method, and what it gives;
* `Config.protocol` — the calls that a claim is signed with, in order;
* `Config.calls` — those of them that are made.
-/

set_option autoImplicit false

namespace ClaimSeal

variable {σ : Type}

/-- What a method of a signer gives. -/
inductive Answer where
  | signature (signature : Bytes)
  | alg (name : Option Text)
  | certs (certs : List Bytes)
  | reserveSize (size : Int)
  | timeAuthorityUrl (url : Option Text)
  | ocspVal (response : Option Bytes)
deriving DecidableEq

/-- Calls a method of a signer. -/
def Signer.perform (s : Signer σ) : Call → Action σ Answer
  | .sign data => return .signature (← s.sign data)
  | .alg => return .alg (← s.alg)
  | .certs => return .certs (← s.certs)
  | .reserveSize => return .reserveSize (← s.reserveSize)
  | .timeAuthorityUrl => return .timeAuthorityUrl (← s.timeAuthorityUrl)
  | .ocspVal => return .ocspVal (← s.ocspVal)

namespace Config

/-- The calls that a claim is signed with, in order. -/
def protocol (data : Bytes) : List Call :=
  [.reserveSize, .certs, .alg, .reserveSize, .sign data, .timeAuthorityUrl, .ocspVal]

/-- The calls that are made when a claim is signed in memory. -/
def calls (limit : DigitLimit) (c : Config σ) (data : Bytes) (w : World σ) : List Call :=
  (signBytesUnder limit ⟨c.signer.recorded⟩ data ⟨w.files, w.log, (w.backend, [])⟩).2.backend.2

end Config

end ClaimSeal

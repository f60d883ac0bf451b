import ClaimSeal.Async

/-!
**Failures that come out of a worker.**

The future of a worker keeps what the worker fails with and hands it on to whoever waits.  Most
failures are handed on as they are.  Two kinds of errors of futures become the kinds that tasks have
instead, one of which may not be handled.  A system error which says that something took too long is
made anew from the values that it holds, and the names of files are not among them.

Main definitions:

* `Failure.Alike`, `Outcome.Alike` — the same to whoever looks at kind, message and cause;
* `Failure.IsAltered` — failures that are not handed on as they are.

Main results:

* `Failure.delivered_eq_self` — all others are;
* `Failure.alike_delivered_iff` — **which failures to sign look the same** from a worker.
-/

set_option autoImplicit false

namespace ClaimSeal

/-- Failures of the same kind, with the same message and a cause of the same kind. -/
structure Failure.Alike (f g : Failure) : Prop where
  kind : f.kind = g.kind
  message : f.message = g.message
  cause : f.cause? = g.cause?

/-- The same value, or failures that look the same. -/
inductive Outcome.Alike {α : Type} : Except Failure α → Except Failure α → Prop
  | ok (a : α) : Alike (.ok a) (.ok a)
  | error {f g : Failure} (h : f.Alike g) : Alike (.error f) (.error g)

namespace Failure

/-- Failures that a worker's future does not hand on as they are: two kinds of errors of futures,
and a system error which says that something took too long and names a file. -/
inductive IsAltered : Failure → Prop
  | cancelled (args : List Datum) : IsAltered (.fault ⟨.futureCancelled, args⟩)
  | state (args : List Datum) : IsAltered (.fault ⟨.futureState, args⟩)
  | timeout {n : Option Int} {number text about : Datum} {rest : List Datum}
      (hnumber : Fault.number? number = some 110) (habout : about ≠ .json .null)
      (hrest : rest.length ≤ 2) :
      IsAltered (.fault ⟨.system n, number :: text :: about :: rest⟩)

theorem Alike.refl (f : Failure) : f.Alike f := ⟨rfl, rfl, rfl⟩

/-! ### Errors that say that something took too long -/

theorem namesFile_of_timeout {number about : Datum} (hnumber : Fault.number? number = some 110)
    (habout : about ≠ .json .null) : Fault.namesFile number about = true := by
  unfold Fault.namesFile
  split
  · exact absurd rfl habout
  · rw [hnumber]
    rfl

theorem ne_null_of_namesFile {number about : Datum} (h : Fault.namesFile number about = true) :
    about ≠ .json .null := by
  rintro rfl
  cases h

/-- A fault of that kind is a system error with that number. -/
theorem exists_of_kind_eq_timeout {g : Fault} (h : g.kind = Fault.timeout) :
    ∃ n number text rest, g = ⟨.system n, number :: text :: rest⟩ ∧
      Fault.number? number = some 110 ∧ rest.length ≤ 3 := by
  obtain ⟨sort, args⟩ := g
  cases sort with
  | system n =>
      have hnumber : Fault.systemNumber? args = some 110 := ErrorKind.system.inj h
      match args, hnumber with
      | number :: text :: rest, hnumber =>
          rw [Fault.systemNumber?] at hnumber
          split at hnumber
          · next hrest => exact ⟨n, number, text, rest, rfl, hnumber, hrest⟩
          · cases hnumber
  | _ => cases h

theorem kind_of_timeout (n : Option Int) {number text : Datum} {rest : List Datum}
    (hnumber : Fault.number? number = some 110) (hrest : rest.length ≤ 3) :
    Fault.kind ⟨.system n, number :: text :: rest⟩ = Fault.timeout := by
  rw [Fault.kind, Fault.systemNumber?, if_pos hrest, hnumber]
  rfl

theorem heldArgs_of_timeout {number text about : Datum} {rest : List Datum}
    (hnumber : Fault.number? number = some 110) (habout : about ≠ .json .null)
    (hrest : rest.length ≤ 2) :
    Fault.heldArgs (number :: text :: about :: rest) = [number, text] := by
  rw [Fault.heldArgs, namesFile_of_timeout hnumber habout, if_neg]
  simpa using hrest

/-! ### What is handed on -/

/-- All but these failures are handed on as they are. -/
theorem delivered_eq_self {f : Failure} (h : ¬ f.IsAltered) : f.delivered = f := by
  cases f with
  | fault g =>
      rw [delivered, Fault.delivered]
      split
      · next hkind =>
          -- without the name of a file nothing is lost
          obtain ⟨n, number, text, rest, rfl, hnumber, hrest⟩ := exists_of_kind_eq_timeout hkind
          cases rest with
          | nil => rfl
          | cons about rest =>
              cases hfile : Fault.namesFile number about with
              | true =>
                  exact absurd (.timeout hnumber (ne_null_of_namesFile hfile)
                    (Nat.le_of_succ_le_succ hrest)) h
              | false => rw [Fault.heldArgs, hfile, if_pos (by simp)]
      · split
        · next hsort =>
            obtain ⟨sort, args⟩ := g
            cases hsort
            exact absurd (.cancelled args) h
        · split
          · next hsort =>
              obtain ⟨sort, args⟩ := g
              cases hsort
              exact absurd (.state args) h
          · rfl
  | _ => rfl

/-- A system error which says that something took too long becomes a failure to sign. -/
theorem toSigning_of_timeout {g : Fault} (h : g.kind = Fault.timeout) :
    (fault g).toSigning = .signing (.fault g) := by
  have hsigning : (fault g).isSigning = false := by
    rw [isSigning, kind, h]
    rfl
  have hordinary : (fault g).isOrdinary = true := by
    rw [isOrdinary, kind, h]
    rfl
  rw [toSigning, hsigning, hordinary]
  rfl

/-- These failures look different when they come out of a worker: by their kind, by the kind of
their cause or by their message. -/
theorem not_alike_of_isAltered {f : Failure} (h : f.IsAltered) :
    ¬ f.delivered.toSigning.Alike f.toSigning := by
  intro halike
  cases h with
  | cancelled args => cases halike.kind
  | state args => cases halike.cause
  | @timeout n number text about rest hnumber habout hrest =>
      have hkind : Fault.kind ⟨.system n, number :: text :: about :: rest⟩ = Fault.timeout :=
        kind_of_timeout n hnumber (Nat.succ_le_succ hrest)
      have hheld : Fault.kind ⟨.system n, [number, text]⟩ = Fault.timeout :=
        kind_of_timeout n hnumber (Nat.zero_le 3)
      have hdelivered : delivered (.fault ⟨.system n, number :: text :: about :: rest⟩) =
          .fault ⟨.system n, [number, text]⟩ := by
        rw [delivered, Fault.delivered, if_pos hkind, heldArgs_of_timeout hnumber habout hrest]
      have hmessage := halike.message
      rw [hdelivered, toSigning_of_timeout hheld, toSigning_of_timeout hkind] at hmessage
      -- the name of the file is missing from the message
      have hlength := congrArg List.length (List.append_cancel_left hmessage)
      rw [message, message, Fault.message, Fault.message] at hlength
      simp only [Fault.systemMessage, if_neg (Nat.not_lt.2 hrest),
        namesFile_of_timeout hnumber habout, if_true, List.length_append] at hlength
      have hcolon : (txt ": ").length = 2 := by decide
      omega

/-- **Which failures to sign look the same** when a worker signs: all but those that its future does
not hand on as they are. -/
theorem alike_delivered_iff {f : Failure} :
    f.delivered.toSigning.Alike f.toSigning ↔ ¬ f.IsAltered := by
  constructor
  · intro halike h
    exact not_alike_of_isAltered h halike
  · intro h
    rw [delivered_eq_self h]
    exact .refl _

end Failure

theorem Outcome.Alike.refl {α : Type} (r : Except Failure α) : Outcome.Alike r r := by
  cases r with
  | ok a => exact .ok a
  | error f => exact .error (.refl f)

end ClaimSeal

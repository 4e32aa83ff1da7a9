import DebugWire.Session.Report

/-!
# Session/Waiting — threads that wait in their reports

A thread that reports while it is suspended waits there until it is resumed.  A `Debuggee` is a
backend with its waiting reports, numbered in the order they were made; `Debuggee.release` takes out
those whose threads run again.
-/

namespace DebugWire

/-- A report whose thread waits. -/
structure WaitingReport where
  /-- Which report it is. -/
  token : Nat
  thread : Handle
  /-- The answer that the thread will get. -/
  delivered : Bool
deriving DecidableEq, Repr

/-- A backend, and the threads that wait in their reports. -/
structure Debuggee (σ : Type) where
  backend : Backend σ
  /-- How many reports were made. -/
  reports : Nat
  /-- The reports whose threads wait, the oldest first. -/
  waiting : List WaitingReport

/-- How a report goes. -/
inductive ReportOutcome where
  | returned (delivered : Bool)
  | failed (error : CommandError)
  | waits (token : Nat)
deriving DecidableEq, Repr

namespace Debuggee

variable {σ : Type}

/-- A backend that nothing was reported to. -/
def new (b : Backend σ) : Debuggee σ := ⟨b, 0, []⟩

/-- Report an occurrence, on a thread of the target.  A report to a disposed session returns at
once. -/
def notify [Target σ] (o : Occurrence) (d : Debuggee σ) : ReportOutcome × Debuggee σ :=
  let token := d.reports + 1
  match d.backend.report o with
  | (.error e, b) => (.failed e, { d with backend := b, reports := token })
  | (.ok delivered, b) =>
    let returned := (.returned delivered, { d with backend := b, reports := token })
    match o.thread? with
    | none => returned
    | some thread =>
      if b.suspension.isSuspended thread ∧ !b.disposed then
        (.waits token, { d with
          backend := b
          reports := token
          waiting := d.waiting ++ [⟨token, thread, delivered⟩] })
      else returned

/-- Let the reports return whose threads run. -/
def release (d : Debuggee σ) : List WaitingReport × Debuggee σ :=
  let waits (w : WaitingReport) := d.backend.suspension.isSuspended w.thread
  (d.waiting.filter (!waits ·), { d with waiting := d.waiting.filter waits })

end Debuggee
end DebugWire

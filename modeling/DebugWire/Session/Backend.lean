import DebugWire.Event.Request
import DebugWire.Settings.Basic
import DebugWire.Suspension
import DebugWire.Target.Facts

/-!
# Session/Backend — the state of one debugged target

A `Backend` holds the target, the ids handed out, the requests, the suspensions and the packets that
wait to be sent.  Those packets are read by one holder at a time (`Outlet`); once the outlet is
dropped, packets go nowhere.

`Backend.dispose` ends a session: ids, requests and suspensions are forgotten, and nothing is
reported until `Backend.reset`.
-/

namespace DebugWire

/-- Who reads the waiting packets. -/
inductive Outlet where
  /-- No one yet. -/
  | free
  | taken
  | dropped
deriving DecidableEq, Repr

/-- The state of one debugged target. -/
structure Backend (σ : Type) where
  settings : BackendSettings
  target : σ
  registry : Registry
  requests : RequestTable
  suspension : Suspension
  disposed : Bool
  nextPacketId : UInt32
  /-- The packets that wait, the oldest first. -/
  queue : List Bytes
  outlet : Outlet

namespace Backend

variable {σ : Type}

/-- The state at the start. -/
def new (settings : BackendSettings) (target : σ) : Except SettingsError (Backend σ) := do
  settings.validate
  return {
    settings := settings
    target := target
    registry := Registry.new settings.firstId settings.sweepThreshold.toNat
    requests := .empty
    suspension := .none
    disposed := false
    nextPacketId := 1
    queue := []
    outlet := .free }

/-- End the session: forget every id and request, and let the target run. -/
def dispose (b : Backend σ) : Backend σ :=
  { b with
    disposed := true
    requests := b.requests.clearAll
    registry := b.registry.disposeAll
    suspension := .none }

/-- Make ready for a session after a disposed one. -/
def reset (b : Backend σ) : Backend σ := { b with disposed := false }

/-- Let every thread run. -/
def releaseAll (b : Backend σ) : Backend σ := { b with suspension := .none }

/-- Queue a packet, unless no one can ever read it. -/
def enqueue (b : Backend σ) (packet : Bytes) : Backend σ :=
  match b.outlet with
  | .dropped => b
  | _ => { b with queue := b.queue ++ [packet] }

/-- Take the reading end of the queue, if no one has it. -/
def takeOutlet (b : Backend σ) : Option (Backend σ) :=
  match b.outlet with
  | .free => some { b with outlet := .taken }
  | _ => none

/-- Put the reading end back. -/
def restoreOutlet (b : Backend σ) : Backend σ := { b with outlet := .free }

/-- Drop the reading end, and what waits with it. -/
def dropOutlet (b : Backend σ) : Backend σ := { b with outlet := .dropped, queue := [] }

/-- Take every waiting packet. -/
def drain (b : Backend σ) : List Bytes × Backend σ := (b.queue, { b with queue := [] })

end Backend
end DebugWire

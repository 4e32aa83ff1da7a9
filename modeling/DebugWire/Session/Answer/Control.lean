import DebugWire.Session.Answer.Threads

/-!
# Session/Answer/Control — the session itself, and event requests
-/

namespace DebugWire.Answer

open DebugWire.Action

variable {σ : Type} [Target σ]

/-- What the target says of itself. -/
def version : Action σ Bytes := do
  let d := Target.describe (← backend).target
  return Bytes.ofString d.description ++ Bytes.ofInt32 d.protocolMajor ++
    Bytes.ofInt32 d.protocolMinor ++ Bytes.ofString d.version ++ Bytes.ofString d.name

/-- How many bytes the five sorts of id have. -/
def idSizes : Action σ Bytes := do
  return (List.replicate 5 (Bytes.ofInt32 8)).flatten

/-- The first `n` capabilities.  What the target does not speak of it cannot do. -/
def capabilities (n : Nat) : Action σ Bytes := do
  let caps := Target.capabilities (← backend).target
  return (List.range n).flatMap fun i => Bytes.ofBool (caps.getD i false)

/-- End the session. -/
def dispose : Action σ Bytes := do
  edit Backend.dispose
  return []

/-- Suspend the whole target. -/
def suspend : Action σ Bytes := do
  editSuspension Suspension.suspendAll
  return []

/-- Resume the whole target.  Frame ids mean nothing afterwards. -/
def resume : Action σ Bytes := do
  registry fun r => ((), r.invalidateFrames)
  editSuspension Suspension.resumeAll
  return []

/-- Take back references to objects, each as soon as it is read. -/
def disposeObjects : Action σ Bytes := do
  let _ ← times (← read Read.count) do
    let id ← read Read.wireId
    let count ← read Read.int32
    registry fun r => ((), r.disposeObjects id count.toNatClampNeg)
  return []

/-! ## Event requests -/

/-- Read the kind of a request. -/
def eventKind : Action σ EventKind := do
  let raw ← read Read.uint8
  match EventKind.ofNumber? raw with
  | some kind => return kind
  | none => throw (.malformed (.unknownEventKind raw))

/-- Read a suspend policy. -/
def suspendPolicy : Action σ SuspendPolicy := do
  let raw ← read Read.uint8
  Attempt.ofExcept ((SuspendPolicy.ofNumber raw).mapError .malformed)

/-- Change the installed requests. -/
def onRequests {α : Type} (f : RequestTable → α × RequestTable) : Action σ α :=
  Attempt.ofStep fun c =>
    let (a, t) := f c.backend.requests
    (a, { c with backend := { c.backend with requests := t } })

/-- Install a request, after all of its filters were read. -/
def setRequest : Action σ Bytes := do
  let kind ← eventKind
  let policy ← suspendPolicy
  let modifiers ← times (← read Read.count) (decode Modifier.read)
  Bytes.ofInt32 <$> onRequests (·.set kind policy modifiers)

/-- Remove a request. -/
def clearRequest : Action σ Bytes := do
  let kind ← eventKind
  let id ← read Read.int32
  let _ ← onRequests (·.clear kind id)
  return []

/-- Remove all requests for breakpoints. -/
def clearBreakpoints : Action σ Bytes := do
  let _ ← onRequests (·.clearBreakpoints)
  return []

end DebugWire.Answer

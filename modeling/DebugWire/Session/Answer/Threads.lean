import DebugWire.Session.Action

/-!
# Session/Answer/Threads — threads, their groups and their stacks

The stack of a thread can be looked at only while the thread is suspended (`stackOf`).
-/

namespace DebugWire.Answer

open DebugWire.Action

variable {σ : Type} [Target σ]

/-- Whether a thread is suspended. -/
def isSuspended (thread : Handle) : Action σ Bool := do
  return (← backend).suspension.isSuspended thread

/-- Change what is suspended. -/
def editSuspension (f : Suspension → Suspension) : Action σ Unit :=
  edit fun b => { b with suspension := f b.suspension }

/-- The stack of a suspended thread. -/
def stackOf (thread : Handle) : Action σ (List FrameFacts) := do
  if !(← isSuspended thread) then refuse .threadNotSuspended
  call (Target.frames thread)

/-! ## Threads -/

/-- Read the id of a thread. -/
def thread : Action σ Handle := entity (.object .thread)

/-- The threads of the target. -/
def allThreads : Action σ Body := do
  list (← call Target.allThreads) (idOf · (.object .thread))

/-- The name of a thread. -/
def threadName : Action σ Bytes := do
  return Bytes.ofString (← call (Target.threadFacts (← thread))).name

/-- Suspend a thread. -/
def suspendThread : Action σ Bytes := do
  let thread ← thread
  editSuspension (·.suspendThread thread)
  return []

/-- Resume a thread.  Once it runs, frame ids mean nothing. -/
def resumeThread : Action σ Bytes := do
  let thread ← thread
  editSuspension (·.resumeThread thread)
  if !(← isSuspended thread) then registry fun r => ((), r.invalidateFrames)
  return []

/-- What a thread is doing, and whether it is suspended. -/
def threadStatus : Action σ Bytes := do
  let thread ← thread
  let facts ← call (Target.threadFacts thread)
  return Bytes.ofInt32 facts.status ++ Bytes.ofInt32 (if ← isSuspended thread then 1 else 0)

/-- The group of a thread. -/
def threadGroup : Action σ Body := do
  idOf (← call (Target.threadFacts (← thread))).group (.object .threadGroup)

/-- The page of a list from `start` on; a length of -1 asks for all that is left. -/
def page {α : Type} (start length : Int32) (xs : List α) : Except ReplyCode (List α) :=
  if start < 0 ∨ xs.length < start.toNatClampNeg then .error .invalidIndex
  else
    let rest := xs.drop start.toNatClampNeg
    if length = -1 then .ok rest
    else if length < 0 ∨ rest.length < length.toNatClampNeg then .error .invalidLength
    else .ok (rest.take length.toNatClampNeg)

/-- A page of the stack of a thread: frame ids with their positions. -/
def frames : Action σ Body := do
  let thread ← thread
  let start ← read Read.int32
  let length ← read Read.int32
  match page start length (← stackOf thread) with
  | .error code => refuse code
  | .ok selected =>
      list selected fun f => do
        let id ← idOf f.frame .frame
        return id ++ (← place f.method f.index)

/-- How deep the stack of a thread is. -/
def frameCount : Action σ Bytes := do
  return Bytes.ofCount (← stackOf (← thread)).length

/-- How often a thread was suspended. -/
def suspendCount : Action σ Bytes := do
  let thread ← thread
  return bigEndian 4 ((← backend).suspension.count thread)

/-! ## Thread groups -/

/-- The groups that are in no other. -/
def topLevelGroups : Action σ Body := do
  list (← call Target.topLevelGroups) (idOf · (.object .threadGroup))

/-- The facts of the group that the payload names. -/
def factsOfGroup : Action σ ThreadGroupFacts := do
  call (Target.threadGroupFacts (← entity (.object .threadGroup)))

/-- The name of a group. -/
def groupName : Action σ Bytes := do
  return Bytes.ofString (← factsOfGroup).name

/-- The group that a group is in. -/
def groupParent : Action σ Body := do
  idOf? (← factsOfGroup).parent (.object .threadGroup)

/-! ## Frames -/

/-- Read a thread and a frame, which must be on the stack of the thread. -/
def frame : Action σ Handle := do
  let thread ← thread
  let id ← read Read.wireId
  let frame ← lookUp (·.resolve id .frame)
  if !(← stackOf thread).any (·.frame = frame) then throw (.invalidId .frame id)
  return frame

/-- The values in slots of a frame. -/
def frameValues : Action σ Body := do
  let frame ← frame
  let slots ← times (← read Read.count) do
    let slot ← read Read.int32
    return (slot, ← read Read.valueTag)
  list slots fun (slot, tag) => do
    tagged (← call (Target.frameValue frame slot tag))

/-- The object that a frame runs on, with its runtime kind.  Static code answers null. -/
def frameReceiver : Action σ Body := do
  match ← call (Target.receiver (← frame)) with
  | some object =>
      let kind ← call (Target.objectKind object)
      tagged (.reference kind (some object))
  | none => tagged .null

end DebugWire.Answer

import DebugWire.Event.Kind
import DebugWire.Value

/-!
# Event/Occurrence — what the target reports

Most occurrences happen at a `Spot`, a thread executing code; the others concern a thread, a class
or the target itself.  `Occurrence.kinds` are the requests that an occurrence is offered to, in
order.
-/

namespace DebugWire

/-- A thread at a code position. -/
structure Spot where
  thread : Handle
  method : Handle
  index : UInt64
  /-- The object that the code runs on.  Static code has none. -/
  receiver : Option Handle
deriving DecidableEq, Repr

/-- What executing code can do that is worth a report. -/
inductive CodeEvent where
  | breakpoint
  | singleStep (size depth : Int32)
  | methodEntry
  /-- Serves requests with and without the returned value. -/
  | methodExit (returned : TargetValue)
  /-- The handler is where the exception will be caught, if it will be. -/
  | exception (thrown : Handle) (handler : Option (Handle × UInt64))
  | fieldAccess (field : Handle) (object : Option Handle)
  | fieldModification (field : Handle) (object : Option Handle) (value : TargetValue)
deriving DecidableEq, Repr

/-- What the target reports. -/
inductive Occurrence where
  | vmStart (thread : Handle)
  | vmDeath
  | threadStart (thread : Handle)
  | threadDeath (thread : Handle)
  | classPrepare (thread type : Handle)
  | classUnload (signature : String)
  | code (spot : Spot) (event : CodeEvent)
deriving DecidableEq, Repr

/-- The kinds of request that a code event is offered to. -/
def CodeEvent.kinds : CodeEvent → List EventKind
  | .breakpoint => [.breakpoint]
  | .singleStep .. => [.singleStep]
  | .methodEntry => [.methodEntry]
  | .methodExit _ => [.methodExit, .methodExitWithReturnValue]
  | .exception .. => [.exception]
  | .fieldAccess .. => [.fieldAccess]
  | .fieldModification .. => [.fieldModification]

theorem CodeEvent.kinds_ne_nil (e : CodeEvent) : e.kinds ≠ [] := by
  cases e <;> simp [kinds]

namespace Occurrence

/-- The kinds of request that the occurrence is offered to. -/
def kinds : Occurrence → List EventKind
  | .vmStart _ => [.vmStart]
  | .vmDeath => [.vmDeath]
  | .threadStart _ => [.threadStart]
  | .threadDeath _ => [.threadDeath]
  | .classPrepare .. => [.classPrepare]
  | .classUnload _ => [.classUnload]
  | .code _ event => event.kinds

/-- The thread that reports, if one does. -/
def thread? : Occurrence → Option Handle
  | .vmStart thread => some thread
  | .vmDeath => none
  | .threadStart thread => some thread
  | .threadDeath thread => some thread
  | .classPrepare thread _ => some thread
  | .classUnload _ => none
  | .code spot _ => some spot.thread

/-- Where the occurrence happened, if at a code position. -/
def spot? : Occurrence → Option Spot
  | .code spot _ => some spot
  | _ => none

/-- Every occurrence is offered to some kind of request. -/
theorem kinds_ne_nil : ∀ o : Occurrence, o.kinds ≠ []
  | .vmStart _ => List.cons_ne_nil _ _
  | .vmDeath => List.cons_ne_nil _ _
  | .threadStart _ => List.cons_ne_nil _ _
  | .threadDeath _ => List.cons_ne_nil _ _
  | .classPrepare .. => List.cons_ne_nil _ _
  | .classUnload _ => List.cons_ne_nil _ _
  | .code _ event => event.kinds_ne_nil

end Occurrence
end DebugWire

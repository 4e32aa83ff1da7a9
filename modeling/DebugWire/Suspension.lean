import DebugWire.Event.Kind

/-!
# Suspension — how often the target and its threads were suspended

Suspensions are counted, for the whole target and for each thread.  A thread runs while both counts
are zero.  `Suspension.count` is the number a debugger sees; a counter that is full stays full.
A thread that is held sleeps until an operation wakes it, and then looks again (`Scene`).
-/

namespace DebugWire

open Std (TreeMap)

/-- The greatest number of suspensions counted. -/
def suspensionMax : Nat := 4294967295

/-- The suspensions in force. -/
structure Suspension where
  /-- Those of the whole target. -/
  target : Nat
  /-- Those of single threads.  A thread that has none is absent. -/
  threads : TreeMap Handle Nat

namespace Suspension

/-- Nothing is suspended. -/
def none : Suspension := ⟨0, ∅⟩

/-- The suspensions of a thread on its own. -/
def own (g : Suspension) (thread : Handle) : Nat := g.threads[thread]?.getD 0

/-- The suspensions of a thread, those of the whole target included. -/
def count (g : Suspension) (thread : Handle) : Nat := min (g.target + g.own thread) suspensionMax

/-- Whether a thread is held. -/
def isSuspended (g : Suspension) (thread : Handle) : Bool := 0 < g.count thread

/-- Whether the whole target is held. -/
def isTargetSuspended (g : Suspension) : Bool := 0 < g.target

/-- Suspend the whole target. -/
def suspendAll (g : Suspension) : Suspension :=
  { g with target := min (g.target + 1) suspensionMax }

/-- Undo one suspension of the whole target, and one of every thread that has its own. -/
def resumeAll (g : Suspension) : Suspension where
  target := g.target - 1
  threads := g.threads.filterMap fun _ n => if 1 < n then some (n - 1) else Option.none

/-- Suspend a thread. -/
def suspendThread (g : Suspension) (thread : Handle) : Suspension :=
  { g with threads := g.threads.insert thread (min (g.own thread + 1) suspensionMax) }

/-- Undo one suspension of a thread. -/
def resumeThread (g : Suspension) (thread : Handle) : Suspension :=
  if 1 < g.own thread then { g with threads := g.threads.insert thread (g.own thread - 1) }
  else { g with threads := g.threads.erase thread }

/-- Suspend what a policy says.  Without a thread there is none to suspend. -/
def apply (g : Suspension) (policy : SuspendPolicy) (thread : Option Handle) : Suspension :=
  match policy with
  | .none => g
  | .eventThread =>
    match thread with
    | some thread => g.suspendThread thread
    | Option.none => g
  | .all => g.suspendAll

@[simp] theorem own_none (thread : Handle) : none.own thread = 0 := rfl

@[simp] theorem isSuspended_none (thread : Handle) : none.isSuspended thread = false := rfl

/-! ## Operations, and a thread that waits -/

/-- What may be asked for, one after the other. -/
inductive Operation where
  | suspendAll
  | resumeAll
  | suspendThread (thread : Handle)
  | resumeThread (thread : Handle)
  | apply (policy : SuspendPolicy) (thread : Option Handle)
  /-- Undo every suspension. -/
  | releaseAll
deriving DecidableEq, Repr

/-- What is in force after an operation. -/
def perform (g : Suspension) : Operation → Suspension
  | .suspendAll => g.suspendAll
  | .resumeAll => g.resumeAll
  | .suspendThread thread => g.suspendThread thread
  | .resumeThread thread => g.resumeThread thread
  | .apply policy thread => g.apply policy thread
  | .releaseAll => none

/-- What holds a thread, or without one the target. -/
def countFor (g : Suspension) : Option Handle → Nat
  | some thread => g.count thread
  | Option.none => g.target

/-- Where a thread that waits is. -/
inductive Wait where
  /-- It is about to look at the counts. -/
  | looks
  /-- It found a suspension, and will look again when it is woken. -/
  | sleeps
  | ended
deriving DecidableEq, Repr

/-- It looks at the counts. -/
def Wait.look (g : Suspension) (thread : Option Handle) : Wait → Wait
  | .looks => if g.countFor thread = 0 then .ended else .sleeps
  | wait => wait

def Wait.wake : Wait → Wait
  | .sleeps => .looks
  | wait => wait

/-- The operations that wake those who sleep. -/
def Operation.wakes : Operation → Bool
  | .resumeAll | .resumeThread _ | .releaseAll => true
  | _ => false

/-- What happens while a thread waits. -/
inductive Turn where
  | operate (op : Operation)
  /-- The thread has its turn. -/
  | look
deriving DecidableEq, Repr

/-- The suspensions in force, and a thread that waits. -/
structure Scene where
  gate : Suspension
  wait : Wait

namespace Scene

/-- One turn. -/
def turn (thread : Option Handle) (s : Scene) : Turn → Scene
  | .operate op => ⟨s.gate.perform op, if op.wakes then s.wait.wake else s.wait⟩
  | .look => { s with wait := s.wait.look s.gate thread }

/-- After some turns.  The thread waits from the start; the first time it looks may be late. -/
def after (thread : Option Handle) (turns : List Turn) : Scene :=
  turns.foldl (turn thread) ⟨none, .looks⟩

end Scene

end Suspension
end DebugWire

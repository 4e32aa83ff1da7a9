import DebugWire.Fault

/-!
# Event/Kind — what can be asked for, and how hard an event stops the target

`EventKind` and `SuspendPolicy` are the protocol's numbered lists.  Policies are ordered by
strength: `SuspendPolicy.strongest` of a list is the one that counts when several requests meet one
event.
-/

namespace DebugWire

/-- What a debugger can ask to be told. -/
inductive EventKind where
  | singleStep
  | breakpoint
  | framePop
  | exception
  | userDefined
  | threadStart
  | threadDeath
  | classPrepare
  | classUnload
  | classLoad
  | fieldAccess
  | fieldModification
  | exceptionCatch
  | methodEntry
  | methodExit
  | methodExitWithReturnValue
  | vmStart
  | vmDeath
deriving DecidableEq, Repr

namespace EventKind

/-- Every kind. -/
def all : List EventKind :=
  [.singleStep, .breakpoint, .framePop, .exception, .userDefined, .threadStart, .threadDeath,
    .classPrepare, .classUnload, .classLoad, .fieldAccess, .fieldModification, .exceptionCatch,
    .methodEntry, .methodExit, .methodExitWithReturnValue, .vmStart, .vmDeath]

/-- The number on the wire. -/
def number : EventKind → UInt8
  | .singleStep => 1
  | .breakpoint => 2
  | .framePop => 3
  | .exception => 4
  | .userDefined => 5
  | .threadStart => 6
  | .threadDeath => 7
  | .classPrepare => 8
  | .classUnload => 9
  | .classLoad => 10
  | .fieldAccess => 20
  | .fieldModification => 21
  | .exceptionCatch => 30
  | .methodEntry => 40
  | .methodExit => 41
  | .methodExitWithReturnValue => 42
  | .vmStart => 90
  | .vmDeath => 99

/-- The kind with a given number. -/
def ofNumber? (n : UInt8) : Option EventKind :=
  all.find? (·.number == n)

theorem ofNumber?_number (k : EventKind) : ofNumber? k.number = some k := by
  cases k <;> decide

/-- The kinds that are reported even if nobody asked. -/
def isUnsolicited : EventKind → Bool
  | .vmStart | .vmDeath => true
  | _ => false

end EventKind

/-- What an event suspends. -/
inductive SuspendPolicy where
  | none
  /-- The thread that reports the event. -/
  | eventThread
  /-- The whole target. -/
  | all
deriving DecidableEq, Repr

namespace SuspendPolicy

/-- The number on the wire; stronger policies have greater ones. -/
def number : SuspendPolicy → UInt8
  | .none => 0
  | .eventThread => 1
  | .all => 2

/-- The policy with a given number. -/
def ofNumber : UInt8 → Except DecodeError SuspendPolicy
  | 0 => .ok .none
  | 1 => .ok .eventThread
  | 2 => .ok .all
  | n => .error (.unknownSuspendPolicy n)

theorem ofNumber_number (p : SuspendPolicy) : ofNumber p.number = .ok p := by
  cases p <;> rfl

/-- The stronger of two policies. -/
def stronger (a b : SuspendPolicy) : SuspendPolicy :=
  if a.number ≤ b.number then b else a

/-- The strongest policy of a list, or none at all. -/
def strongest (ps : List SuspendPolicy) : SuspendPolicy := ps.foldl stronger .none

theorem number_le_stronger_left (a b : SuspendPolicy) : a.number ≤ (stronger a b).number := by
  cases a <;> cases b <;> decide

theorem number_le_stronger_right (a b : SuspendPolicy) : b.number ≤ (stronger a b).number := by
  cases a <;> cases b <;> decide

end SuspendPolicy
end DebugWire

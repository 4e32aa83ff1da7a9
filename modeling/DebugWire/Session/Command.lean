import DebugWire.Session.Answer.Control
import DebugWire.Session.Answer.Objects
import DebugWire.Session.Answer.Types

/-!
# Session/Command — which command does what

`Command.numbers` is the protocol's numbering, a set and a number inside it; `Command.answer` is
what is done.  `dispatch` routes a payload: an unknown command is not implemented, a dead target
refuses all but a few, and whatever else goes wrong becomes a reply code or ends the session.
-/

namespace DebugWire

/-- The commands of a debugger. -/
inductive Command where
  | version
  | classesBySignature
  | allClasses
  | allThreads
  | topLevelGroups
  | dispose
  | idSizes
  | suspend
  | resume
  | createString
  | capabilities
  | disposeObjects
  | capabilitiesNew
  | typeSignature
  | classLoader
  | typeModifiers
  | fields
  | methods
  | sourceFile
  | typeStatus
  | superclass
  | lineTable
  | variableTable
  | objectType
  | fieldValues
  | disableCollection
  | enableCollection
  | isCollected
  | stringValue
  | threadName
  | suspendThread
  | resumeThread
  | threadStatus
  | threadGroup
  | frames
  | frameCount
  | suspendCount
  | groupName
  | groupParent
  | arrayLength
  | arrayValues
  | setRequest
  | clearRequest
  | clearBreakpoints
  | frameValues
  | frameReceiver
  | reflectedType
deriving DecidableEq, Repr

namespace Command

/-- Every command, in the order of the numbers. -/
def all : List Command :=
  [.version, .classesBySignature, .allClasses, .allThreads, .topLevelGroups, .dispose, .idSizes,
    .suspend, .resume, .createString, .capabilities, .disposeObjects, .capabilitiesNew,
    .typeSignature, .classLoader, .typeModifiers, .fields, .methods, .sourceFile, .typeStatus,
    .superclass, .lineTable, .variableTable, .objectType, .fieldValues, .disableCollection,
    .enableCollection, .isCollected, .stringValue, .threadName, .suspendThread, .resumeThread,
    .threadStatus, .threadGroup, .frames, .frameCount, .suspendCount, .groupName, .groupParent,
    .arrayLength, .arrayValues, .setRequest, .clearRequest, .clearBreakpoints, .frameValues,
    .frameReceiver, .reflectedType]

theorem mem_all (c : Command) : c ∈ all := by
  cases c <;> decide

/-- The command set, and the number in it. -/
def numbers : Command → UInt8 × UInt8
  | .version => (1, 1)
  | .classesBySignature => (1, 2)
  | .allClasses => (1, 3)
  | .allThreads => (1, 4)
  | .topLevelGroups => (1, 5)
  | .dispose => (1, 6)
  | .idSizes => (1, 7)
  | .suspend => (1, 8)
  | .resume => (1, 9)
  | .createString => (1, 11)
  | .capabilities => (1, 12)
  | .disposeObjects => (1, 14)
  | .capabilitiesNew => (1, 17)
  | .typeSignature => (2, 1)
  | .classLoader => (2, 2)
  | .typeModifiers => (2, 3)
  | .fields => (2, 4)
  | .methods => (2, 5)
  | .sourceFile => (2, 7)
  | .typeStatus => (2, 9)
  | .superclass => (3, 1)
  | .lineTable => (6, 1)
  | .variableTable => (6, 2)
  | .objectType => (9, 1)
  | .fieldValues => (9, 2)
  | .disableCollection => (9, 7)
  | .enableCollection => (9, 8)
  | .isCollected => (9, 9)
  | .stringValue => (10, 1)
  | .threadName => (11, 1)
  | .suspendThread => (11, 2)
  | .resumeThread => (11, 3)
  | .threadStatus => (11, 4)
  | .threadGroup => (11, 5)
  | .frames => (11, 6)
  | .frameCount => (11, 7)
  | .suspendCount => (11, 12)
  | .groupName => (12, 1)
  | .groupParent => (12, 2)
  | .arrayLength => (13, 1)
  | .arrayValues => (13, 2)
  | .setRequest => (15, 1)
  | .clearRequest => (15, 2)
  | .clearBreakpoints => (15, 3)
  | .frameValues => (16, 1)
  | .frameReceiver => (16, 3)
  | .reflectedType => (17, 1)

/-- The command with given numbers, among the known ones. -/
def find? (known : List Command) (commandSet command : UInt8) : Option Command :=
  known.find? (·.numbers = (commandSet, command))

theorem find?_numbers (c : Command) : find? all c.numbers.1 c.numbers.2 = some c := by
  cases c <;> decide

/-- Whether the command is answered even after the target died. -/
def outlivesTarget : Command → Bool
  | .version | .dispose | .idSizes => true
  | _ => false

/-- Carry out the command, and give the body of the reply. -/
def answer {σ : Type} [Target σ] : Command → Action σ Body
  | .version => Body.plain <$> Answer.version
  | .classesBySignature => Answer.classesBySignature
  | .allClasses => Answer.allClasses
  | .allThreads => Answer.allThreads
  | .topLevelGroups => Answer.topLevelGroups
  | .dispose => Body.plain <$> Answer.dispose
  | .idSizes => Body.plain <$> Answer.idSizes
  | .suspend => Body.plain <$> Answer.suspend
  | .resume => Body.plain <$> Answer.resume
  | .createString => Answer.createString
  | .capabilities => Body.plain <$> Answer.capabilities 7
  | .disposeObjects => Body.plain <$> Answer.disposeObjects
  | .capabilitiesNew => Body.plain <$> Answer.capabilities 32
  | .typeSignature => Body.plain <$> Answer.typeSignature
  | .classLoader => Answer.classLoader
  | .typeModifiers => Body.plain <$> Answer.typeModifiers
  | .fields => Answer.fields
  | .methods => Answer.methods
  | .sourceFile => Body.plain <$> Answer.sourceFile
  | .typeStatus => Body.plain <$> Answer.typeStatus
  | .superclass => Answer.superclass
  | .lineTable => Body.plain <$> Answer.lineTable
  | .variableTable => Body.plain <$> Answer.variableTable
  | .objectType => Answer.objectType
  | .fieldValues => Answer.fieldValues
  | .disableCollection => Body.plain <$> Answer.disableCollection
  | .enableCollection => Body.plain <$> Answer.enableCollection
  | .isCollected => Body.plain <$> Answer.isCollected
  | .stringValue => Body.plain <$> Answer.stringValue
  | .threadName => Body.plain <$> Answer.threadName
  | .suspendThread => Body.plain <$> Answer.suspendThread
  | .resumeThread => Body.plain <$> Answer.resumeThread
  | .threadStatus => Body.plain <$> Answer.threadStatus
  | .threadGroup => Answer.threadGroup
  | .frames => Answer.frames
  | .frameCount => Body.plain <$> Answer.frameCount
  | .suspendCount => Body.plain <$> Answer.suspendCount
  | .groupName => Body.plain <$> Answer.groupName
  | .groupParent => Answer.groupParent
  | .arrayLength => Body.plain <$> Answer.arrayLength
  | .arrayValues => Answer.arrayValues
  | .setRequest => Body.plain <$> Answer.setRequest
  | .clearRequest => Body.plain <$> Answer.clearRequest
  | .clearBreakpoints => Body.plain <$> Answer.clearBreakpoints
  | .frameValues => Answer.frameValues
  | .frameReceiver => Answer.frameReceiver
  | .reflectedType => Answer.reflectedType

end Command

/-- What a debugger is told: a body, or a code without one. -/
structure Reply where
  code : ReplyCode
  body : Bytes
deriving DecidableEq, Repr

namespace Reply

/-- The answer to a command that was carried out. -/
def ok (body : Bytes) : Reply := ⟨.none, body⟩

/-- The answer to a command that was not. -/
def failed (code : ReplyCode) : Reply := ⟨code, []⟩

/-- Whether the command was carried out. -/
def isOk (r : Reply) : Bool := r.code = .none

end Reply

namespace Backend

variable {σ : Type} [Target σ]

/-- Carry out a command, or say why not. -/
def run (known : List Command) (commandSet command : UInt8) (payload : Bytes) (b : Backend σ) :
    Except CommandError Body × Backend σ :=
  match Command.find? known commandSet command with
  | none => (.error (.notImplemented commandSet command), b)
  | some c =>
    if !Target.isAlive b.target ∧ !c.outlivesTarget then (.error (.refused .vmDead), b)
    else c.answer.perform payload b

/-- Answer a command.  A failure that has no reply code is given as its reason, and must end the
session. -/
def dispatch (known : List Command) (commandSet command : UInt8) (payload : Bytes)
    (b : Backend σ) : Except String Reply × Backend σ :=
  match b.run known commandSet command payload with
  | (.ok body, b) => (.ok (.ok body.bytes), b)
  | (.error e, b) =>
    match e.replyCode with
    | some code => (.ok (.failed code), b)
    | none => (.error (s!"command {commandSet}/{command}: " ++ e.message), b)

end Backend
end DebugWire

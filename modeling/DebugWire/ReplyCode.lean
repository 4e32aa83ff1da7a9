/-!
# ReplyCode — the numbers a debugger reads in a reply

`ReplyCode.number` and `ReplyCode.name` are fixed by the protocol; `ReplyCode.ofNumber?` undoes the
first (`ofNumber?_number`).
-/

namespace DebugWire

/-- The outcome that a reply reports. -/
inductive ReplyCode where
  | none
  | invalidThread
  | invalidThreadGroup
  | threadNotSuspended
  | threadSuspended
  | invalidObject
  | invalidClass
  | classNotPrepared
  | invalidMethodId
  | invalidLocation
  | invalidFieldId
  | invalidFrameId
  | noMoreFrames
  | opaqueFrame
  | typeMismatch
  | invalidSlot
  | notFound
  | notImplemented
  | nullPointer
  | absentInformation
  | invalidEventType
  | illegalArgument
  | vmDead
  | internal
  | invalidTag
  | invalidIndex
  | invalidLength
  | invalidString
  | invalidClassLoader
  | invalidArray
  | invalidCount
deriving DecidableEq, Repr

namespace ReplyCode

/-- Every code. -/
def all : List ReplyCode :=
  [.none, .invalidThread, .invalidThreadGroup, .threadNotSuspended, .threadSuspended,
    .invalidObject, .invalidClass, .classNotPrepared, .invalidMethodId, .invalidLocation,
    .invalidFieldId, .invalidFrameId, .noMoreFrames, .opaqueFrame, .typeMismatch, .invalidSlot,
    .notFound, .notImplemented, .nullPointer, .absentInformation, .invalidEventType,
    .illegalArgument, .vmDead, .internal, .invalidTag, .invalidIndex, .invalidLength,
    .invalidString, .invalidClassLoader, .invalidArray, .invalidCount]

theorem mem_all (c : ReplyCode) : c ∈ all := by
  cases c <;> decide

/-- The number on the wire. -/
def number : ReplyCode → UInt16
  | .none => 0
  | .invalidThread => 10
  | .invalidThreadGroup => 11
  | .threadNotSuspended => 13
  | .threadSuspended => 14
  | .invalidObject => 20
  | .invalidClass => 21
  | .classNotPrepared => 22
  | .invalidMethodId => 23
  | .invalidLocation => 24
  | .invalidFieldId => 25
  | .invalidFrameId => 30
  | .noMoreFrames => 31
  | .opaqueFrame => 32
  | .typeMismatch => 34
  | .invalidSlot => 35
  | .notFound => 41
  | .notImplemented => 99
  | .nullPointer => 100
  | .absentInformation => 101
  | .invalidEventType => 102
  | .illegalArgument => 103
  | .vmDead => 112
  | .internal => 113
  | .invalidTag => 500
  | .invalidIndex => 503
  | .invalidLength => 504
  | .invalidString => 506
  | .invalidClassLoader => 507
  | .invalidArray => 508
  | .invalidCount => 512

/-- The protocol's name of the code. -/
def name : ReplyCode → String
  | .none => "NONE"
  | .invalidThread => "INVALID_THREAD"
  | .invalidThreadGroup => "INVALID_THREAD_GROUP"
  | .threadNotSuspended => "THREAD_NOT_SUSPENDED"
  | .threadSuspended => "THREAD_SUSPENDED"
  | .invalidObject => "INVALID_OBJECT"
  | .invalidClass => "INVALID_CLASS"
  | .classNotPrepared => "CLASS_NOT_PREPARED"
  | .invalidMethodId => "INVALID_METHODID"
  | .invalidLocation => "INVALID_LOCATION"
  | .invalidFieldId => "INVALID_FIELDID"
  | .invalidFrameId => "INVALID_FRAMEID"
  | .noMoreFrames => "NO_MORE_FRAMES"
  | .opaqueFrame => "OPAQUE_FRAME"
  | .typeMismatch => "TYPE_MISMATCH"
  | .invalidSlot => "INVALID_SLOT"
  | .notFound => "NOT_FOUND"
  | .notImplemented => "NOT_IMPLEMENTED"
  | .nullPointer => "NULL_POINTER"
  | .absentInformation => "ABSENT_INFORMATION"
  | .invalidEventType => "INVALID_EVENT_TYPE"
  | .illegalArgument => "ILLEGAL_ARGUMENT"
  | .vmDead => "VM_DEAD"
  | .internal => "INTERNAL"
  | .invalidTag => "INVALID_TAG"
  | .invalidIndex => "INVALID_INDEX"
  | .invalidLength => "INVALID_LENGTH"
  | .invalidString => "INVALID_STRING"
  | .invalidClassLoader => "INVALID_CLASS_LOADER"
  | .invalidArray => "INVALID_ARRAY"
  | .invalidCount => "INVALID_COUNT"

/-- The code with a given number. -/
def ofNumber? (n : UInt16) : Option ReplyCode :=
  all.find? (·.number == n)

/-- Distinct codes have distinct numbers. -/
theorem ofNumber?_number (c : ReplyCode) : ofNumber? c.number = some c := by
  cases c <;> decide

/-- The code as shown in messages: its name, then its number. -/
def text (c : ReplyCode) : String :=
  s!"{c.name} ({c.number})"

end ReplyCode
end DebugWire

import DebugWire.Bytes.Utf8
import DebugWire.Entity

/-!
# Fault — what can go wrong, and the words for it

`DecodeError` says why a payload is malformed, `TargetError` what the target answered instead of a
result, `CommandError` why a command was not carried out.  Each is a cause; its wording is a
function of it (`message`), and so is the code that a reply carries (`replyCode`).  A command that
fails for a reason the protocol has no code for (`replyCode = none`) is not answered at all.
-/

namespace DebugWire

/-- The two lower-case hexadecimal digits of a byte. -/
def hexByte (b : UInt8) : String :=
  String.ofList [Nat.digitChar (b.toNat / 16), Nat.digitChar (b.toNat % 16)]

/-- Why a payload is malformed. -/
inductive DecodeError where
  /-- Fewer than `needed` bytes follow position `position` of a payload of `length` bytes. -/
  | truncated (needed position length : Nat)
  | unknownTag (raw : UInt8)
  | unknownTypeTag (raw : UInt8)
  | unknownEventKind (raw : UInt8)
  | unknownModifier (raw : UInt8)
  | unknownSuspendPolicy (raw : UInt8)
  /-- The bytes of a string are not UTF-8. -/
  | invalidString (fault : Utf8.Fault)
  /-- A list has a negative length. -/
  | invalidLength (length : Int32)
  /-- A count modifier is not positive. -/
  | invalidCount (count : Int32)
deriving DecidableEq, Repr

namespace DecodeError

/-- The wording of the error. -/
def message : DecodeError → String
  | .truncated needed position length =>
      s!"buffer underflow: need {needed} bytes at {position}, have {length}"
  | .unknownTag raw => "unrecognized value tag 0x" ++ hexByte raw
  | .unknownTypeTag raw => s!"unrecognized type tag {raw}"
  | .unknownEventKind raw => s!"unrecognized event kind {raw}"
  | .unknownModifier raw => s!"unrecognized event modifier kind {raw}"
  | .unknownSuspendPolicy raw => s!"unrecognized suspend policy {raw}"
  | .invalidString fault => "invalid utf-8 string: " ++ fault.message
  | .invalidLength length => s!"invalid length {length}"
  | .invalidCount count => s!"count modifier must be positive, got {count}"

/-- The code that a reply carries for the error. -/
def replyCode : DecodeError → ReplyCode
  | .truncated .. => .illegalArgument
  | .unknownTag _ => .invalidTag
  | .unknownTypeTag _ => .invalidClass
  | .unknownEventKind _ => .invalidEventType
  | .unknownModifier _ => .illegalArgument
  | .unknownSuspendPolicy _ => .illegalArgument
  | .invalidString _ => .invalidString
  | .invalidLength _ => .invalidLength
  | .invalidCount _ => .invalidCount

end DecodeError

/-- What the target answers when it has no result. -/
inductive TargetError where
  /-- The target is in a state that the protocol has a code for. -/
  | reported (code : ReplyCode)
  /-- The target itself misbehaves. -/
  | broken (reason : String)
deriving DecidableEq, Repr

namespace TargetError

/-- The wording of the error. -/
def message : TargetError → String
  | .reported code => "target reported " ++ code.text
  | .broken reason => "target collaborator failure: " ++ reason

/-- The code for the error, if the protocol has one. -/
def replyCode : TargetError → Option ReplyCode
  | .reported code => some code
  | .broken _ => none

end TargetError

/-- Why a command was not carried out. -/
inductive CommandError where
  /-- The id names no entity of the expected kind. -/
  | invalidId (expected : EntityKind) (id : WireId)
  /-- The payload is malformed. -/
  | malformed (error : DecodeError)
  /-- The target is in a state that forbids the command. -/
  | refused (code : ReplyCode)
  /-- There is no such command. -/
  | notImplemented (commandSet command : UInt8)
  /-- A failure that the protocol has no code for. -/
  | internal (reason : String)
deriving DecidableEq, Repr

namespace CommandError

/-- The wording of the error. -/
def message : CommandError → String
  | .invalidId expected id => s!"invalid {expected.name} id {id.raw}"
  | .malformed error => error.message
  | .refused code => "vm state error: " ++ code.text
  | .notImplemented commandSet command => s!"command {commandSet}/{command} is not implemented"
  | .internal reason => "internal back-end failure: " ++ reason

/-- The code that the reply carries.  An internal failure is never turned into a reply. -/
def replyCode : CommandError → Option ReplyCode
  | .invalidId expected _ => some expected.invalidIdCode
  | .malformed error => some error.replyCode
  | .refused code => some code
  | .notImplemented .. => some .notImplemented
  | .internal _ => none

/-- What a command makes of a failing target. -/
def ofTarget : TargetError → CommandError
  | .reported code => .refused code
  | .broken reason => .internal reason

@[simp] theorem replyCode_ofTarget (e : TargetError) : (ofTarget e).replyCode = e.replyCode := by
  cases e <;> rfl

end CommandError
end DebugWire

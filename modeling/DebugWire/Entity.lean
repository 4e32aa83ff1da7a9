import DebugWire.ReplyCode
import Std.Data.TreeMap

/-!
# Entity — the things of the target that a debugger can name

A target entity is known to the target by a `Handle` and to the debugger by a `WireId`.
`EntityKind` says what an id stands for: an object of some `ObjectKind`, or a reference type, field,
method or frame.  `EntityKind.accepts` is the rule by which an id satisfies an expected kind: every
object satisfies `plain`, all else must agree exactly.
-/

namespace DebugWire

/-- The name by which the debugger knows an entity.  Zero is the null reference. -/
structure WireId where
  /-- The eight bytes of the id, as a number. -/
  raw : UInt64
deriving DecidableEq, Repr

namespace WireId

/-- The null reference. -/
def null : WireId := ⟨0⟩

instance : Ord WireId := ⟨compareOn raw⟩
instance : Std.TransOrd WireId := inferInstanceAs (Std.TransCmp (compareOn raw))
instance : Std.LawfulEqOrd WireId where
  eq_of_compare {a b} h := by
    have : a.raw = b.raw := Std.LawfulEqOrd.eq_of_compare h
    cases a; cases b; simp_all

end WireId

/-- The name by which the target knows an entity. -/
structure Handle where
  /-- The number that the target gave the entity. -/
  raw : UInt64
deriving DecidableEq, Repr

namespace Handle

/-- The handle as shown in messages. -/
def text (h : Handle) : String := s!"#{h.raw}"

instance : Ord Handle := ⟨compareOn raw⟩
instance : Std.TransOrd Handle := inferInstanceAs (Std.TransCmp (compareOn raw))
instance : Std.LawfulEqOrd Handle where
  eq_of_compare {a b} h := by
    have : a.raw = b.raw := Std.LawfulEqOrd.eq_of_compare h
    cases a; cases b; simp_all

end Handle

/-- The objects that the protocol tells apart. -/
inductive ObjectKind where
  /-- An object of no special kind, or of a kind not known yet. -/
  | plain
  | thread
  | threadGroup
  | classLoader
  | string
  | array
  | classObject
deriving DecidableEq, Repr

/-- What an id stands for. -/
inductive EntityKind where
  | object (k : ObjectKind)
  | referenceType
  | field
  | method
  | frame
deriving DecidableEq, Repr

namespace EntityKind

/-- Every kind. -/
def all : List EntityKind :=
  [.object .plain, .referenceType, .object .thread, .object .threadGroup, .object .classLoader,
    .object .string, .object .array, .object .classObject, .field, .method, .frame]

/-- Whether entities of this kind travel as object ids. -/
def isObject : EntityKind → Bool
  | .object _ => true
  | _ => false

/-- The kind as shown in messages. -/
def name : EntityKind → String
  | .object .plain => "object"
  | .object .thread => "thread"
  | .object .threadGroup => "thread group"
  | .object .classLoader => "class loader"
  | .object .string => "string"
  | .object .array => "array"
  | .object .classObject => "class object"
  | .referenceType => "reference type"
  | .field => "field"
  | .method => "method"
  | .frame => "frame"

/-- Whether an entity registered as `actual` satisfies a look-up that expects `expected`. -/
def accepts (expected actual : EntityKind) : Bool :=
  match expected with
  | .object .plain => actual.isObject
  | _ => expected = actual

/-- The reply to an id that names no entity of the kind. -/
def invalidIdCode : EntityKind → ReplyCode
  | .object .plain => .invalidObject
  | .object .thread => .invalidThread
  | .object .threadGroup => .invalidThreadGroup
  | .object .classLoader => .invalidClassLoader
  | .object .string => .invalidString
  | .object .array => .invalidArray
  | .object .classObject => .invalidObject
  | .referenceType => .invalidClass
  | .field => .invalidFieldId
  | .method => .invalidMethodId
  | .frame => .invalidFrameId

theorem accepts_self (k : EntityKind) : k.accepts k = true := by
  unfold accepts
  split
  · rfl
  · simp

end EntityKind

/-- The three sorts of reference type. -/
inductive TypeTag where
  | classType
  | interfaceType
  | arrayType
deriving DecidableEq, Repr

namespace TypeTag

/-- Every tag. -/
def all : List TypeTag := [.classType, .interfaceType, .arrayType]

/-- The number on the wire. -/
def number : TypeTag → UInt8
  | .classType => 1
  | .interfaceType => 2
  | .arrayType => 3

/-- The tag with a given number. -/
def ofNumber? (n : UInt8) : Option TypeTag :=
  all.find? (·.number == n)

theorem ofNumber?_number (t : TypeTag) : ofNumber? t.number = some t := by
  cases t <;> decide

/-- The tag of a type.  What is an array is no interface. -/
def ofTraits (isArray isInterface : Bool) : TypeTag :=
  if isArray then .arrayType else if isInterface then .interfaceType else .classType

end TypeTag

/-- A reference type on the wire: its id, with its tag in front. -/
structure TypeRef where
  tag : TypeTag
  id : WireId
deriving DecidableEq, Repr

/-- A code position on the wire. -/
structure Position where
  /-- The tag of the declaring type. -/
  typeTag : TypeTag
  /-- The declaring type. -/
  declaringType : WireId
  method : WireId
  /-- The code index inside the method. -/
  index : UInt64
deriving DecidableEq, Repr

/-- The declaring type of a position, with its tag. -/
def Position.typeRef (p : Position) : TypeRef := ⟨p.typeTag, p.declaringType⟩

end DebugWire

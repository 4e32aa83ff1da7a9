import DebugWire.Signature
import DebugWire.Value

/-!
# Target/Facts — what a target tells of its types, members and threads

`Target σ` is the surface of a debugged process whose state is a `σ`.  Every call may fail and may
change the state.  The facts are plain records.
-/

namespace DebugWire

/-- What the target says of itself. -/
structure TargetDescription where
  description : String
  protocolMajor : Int32
  protocolMinor : Int32
  version : String
  name : String
deriving DecidableEq, Repr

/-- What is known of a type. -/
structure TypeFacts where
  signature : String
  isArray : Bool
  isInterface : Bool
  modifiers : Int32
  status : Int32
  sourceFile : Option String
  superclass : Option Handle
  interfaces : List Handle
  classLoader : Option Handle
deriving DecidableEq, Repr

namespace TypeFacts

/-- The tag of the type. -/
def typeTag (f : TypeFacts) : TypeTag := TypeTag.ofTraits f.isArray f.isInterface

/-- The name that class patterns are matched with. -/
def className (f : TypeFacts) : String := Signature.className f.signature

/-- The direct supertypes: the superclass, then the interfaces. -/
def supertypes (f : TypeFacts) : List Handle := f.superclass.toList ++ f.interfaces

end TypeFacts

/-- What is known of a field or a method. -/
structure MemberFacts where
  name : String
  signature : String
  modifiers : Int32
  declaringType : Handle
deriving DecidableEq, Repr

/-- Which line a piece of code belongs to. -/
structure LineTable where
  start : Int64
  stop : Int64
  /-- Code indices, each with its line. -/
  lines : List (UInt64 × Int32)
deriving DecidableEq, Repr

/-- A local variable of a method. -/
structure VariableSlot where
  codeIndex : UInt64
  name : String
  signature : String
  length : UInt32
  slot : Int32
deriving DecidableEq, Repr

/-- The local variables of a method. -/
structure VariableTable where
  argumentCount : Int32
  slots : List VariableSlot
deriving DecidableEq, Repr

/-- What is known of a thread. -/
structure ThreadFacts where
  name : String
  group : Handle
  status : Int32
deriving DecidableEq, Repr

/-- What is known of a thread group. -/
structure ThreadGroupFacts where
  name : String
  parent : Option Handle
deriving DecidableEq, Repr

/-- A frame on the stack of a thread. -/
structure FrameFacts where
  frame : Handle
  method : Handle
  index : UInt64
deriving DecidableEq, Repr

/-- A call on a target. -/
abbrev TargetCall (σ : Type) := Attempt TargetError σ

/-- A debugged process with states in `σ`. -/
class Target (σ : Type) where
  describe : σ → TargetDescription
  isAlive : σ → Bool
  /-- The capabilities, in the order of the protocol. -/
  capabilities : σ → List Bool
  allClasses : TargetCall σ (List Handle)
  typeFacts (type : Handle) : TargetCall σ TypeFacts
  fields (type : Handle) : TargetCall σ (List Handle)
  fieldFacts (field : Handle) : TargetCall σ MemberFacts
  methods (type : Handle) : TargetCall σ (List Handle)
  methodFacts (method : Handle) : TargetCall σ MemberFacts
  lineTable (method : Handle) : TargetCall σ LineTable
  variableTable (method : Handle) : TargetCall σ VariableTable
  allThreads : TargetCall σ (List Handle)
  threadFacts (thread : Handle) : TargetCall σ ThreadFacts
  topLevelGroups : TargetCall σ (List Handle)
  threadGroupFacts (group : Handle) : TargetCall σ ThreadGroupFacts
  /-- The stack of a thread, the innermost frame first. -/
  frames (thread : Handle) : TargetCall σ (List FrameFacts)
  frameValue (frame : Handle) (slot : Int32) (tag : ValueTag) : TargetCall σ TargetValue
  /-- The object that the code of a frame runs on.  Static code has none. -/
  receiver (frame : Handle) : TargetCall σ (Option Handle)
  objectType (object : Handle) : TargetCall σ Handle
  /-- The runtime kind of an object. -/
  objectKind (object : Handle) : TargetCall σ EntityKind
  fieldValue (object field : Handle) : TargetCall σ TargetValue
  stringValue (string : Handle) : TargetCall σ String
  createString (text : String) : TargetCall σ Handle
  arrayLength (array : Handle) : TargetCall σ Nat
  /-- The elements of an array from `first` on. -/
  arrayValues (array : Handle) (first length : Nat) : TargetCall σ (List TargetValue)
  /-- The type that a class object stands for. -/
  reflectedType (classObject : Handle) : TargetCall σ Handle

end DebugWire

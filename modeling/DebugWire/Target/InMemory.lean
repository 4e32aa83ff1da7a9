import DebugWire.Target.Facts

/-!
# Target/InMemory — a target that is a table of its entities

An `InMemory` target is built by hand: types with their members, threads with their frames, objects,
strings and arrays.  Every new entity takes the next handle.  Threads, strings and class objects
need their classes; where one is missing it is loaded first, and takes a handle of its own.

As a `Target` it answers from the tables.  Each call first looks whether the target was told to fail
once (`breakNext`), then whether it is alive.
-/

namespace DebugWire

open Std (TreeMap)

/-- A loaded type and its members. -/
structure LoadedType where
  facts : TypeFacts
  fields : List Handle
  methods : List Handle

/-- A method, with its debug information if there is any. -/
structure LoadedMethod where
  facts : MemberFacts
  lines : Option LineTable
  locals : Option VariableTable

/-- A thread and its stack. -/
structure LoadedThread where
  facts : ThreadFacts
  frames : List FrameFacts

/-- What a frame holds. -/
structure Activation where
  locals : TreeMap Int32 TargetValue
  receiver : Option Handle

/-- What an object holds. -/
inductive HeapObject where
  | plain (type : Handle) (fields : TreeMap Handle TargetValue)
  | string (type : Handle) (text : String)
  | array (type : Handle) (values : List TargetValue)
  | classObject (type reflected : Handle)
  | thread (type : Handle)

namespace HeapObject

/-- The type of an object. -/
def type : HeapObject → Handle
  | .plain type _ | .string type _ | .array type _ | .classObject type _ | .thread type => type

/-- The kind of an object. -/
def kind : HeapObject → ObjectKind
  | .plain .. => .plain
  | .string .. => .string
  | .array .. => .array
  | .classObject .. => .classObject
  | .thread .. => .thread

end HeapObject

/-- A target that is a table of its entities. -/
structure InMemory where
  types : TreeMap Handle LoadedType
  /-- The loaded types, in the order of loading. -/
  loadOrder : List Handle
  fields : TreeMap Handle MemberFacts
  methods : TreeMap Handle LoadedMethod
  threads : TreeMap Handle LoadedThread
  threadOrder : List Handle
  groups : TreeMap Handle ThreadGroupFacts
  groupOrder : List Handle
  frames : TreeMap Handle Activation
  objects : TreeMap Handle HeapObject
  classObjects : TreeMap Handle Handle
  /-- The type last loaded under a signature. -/
  bySignature : TreeMap String Handle
  nextHandle : UInt64
  alive : Bool
  /-- What the next call fails with, if it is to fail. -/
  fault : Option String

namespace InMemory

/-- A target that was just started. -/
def new : InMemory where
  types := ∅
  loadOrder := []
  fields := ∅
  methods := ∅
  threads := ∅
  threadOrder := []
  groups := ∅
  groupOrder := []
  frames := ∅
  objects := ∅
  classObjects := ∅
  bySignature := ∅
  nextHandle := 1
  alive := true
  fault := none

/-! ## Building -/

/-- The flag of what is public. -/
def publicFlag : Int32 := 0x0001

/-- The flag of an interface. -/
def interfaceFlag : Int32 := 0x0200

/-- The status of a type that was verified, prepared and initialised. -/
def readyStatus : Int32 := 7

/-- The status of a running thread. -/
def runningStatus : Int32 := 1

/-- The signature of the root class. -/
def rootSignature : String := "Ljava/lang/Object;"

/-- Take the next handle. -/
def mint : StateM InMemory Handle :=
  modifyGet fun t => (⟨t.nextHandle⟩, { t with nextHandle := t.nextHandle + 1 })

/-- Load a type.  The superclass of a class is the root class, once that is loaded. -/
def addType (signature : String) (isArray isInterface : Bool) : StateM InMemory Handle := do
  let handle ← mint
  modify fun t =>
    { t with
      types := t.types.insert handle
        { facts :=
            { signature := signature
              isArray := isArray
              isInterface := isInterface
              modifiers := if isInterface then publicFlag ||| interfaceFlag else publicFlag
              status := readyStatus
              sourceFile := none
              superclass := if isInterface || signature = rootSignature then none
                else t.bySignature[rootSignature]?
              interfaces := []
              classLoader := none }
          fields := []
          methods := [] }
      loadOrder := t.loadOrder ++ [handle]
      bySignature := t.bySignature.insert signature handle }
  return handle

/-- Load a class. -/
def addClass (signature : String) : StateM InMemory Handle := addType signature false false

/-- Load an interface. -/
def addInterface (signature : String) : StateM InMemory Handle := addType signature false true

/-- Load an array type. -/
def addArrayType (signature : String) : StateM InMemory Handle := addType signature true false

/-- The type with a signature; a missing one is loaded as a class. -/
def typeNamed (signature : String) : StateM InMemory Handle := do
  match (← get).bySignature[signature]? with
  | some type => return type
  | none => addClass signature

/-- Change the facts of a type, if it is loaded. -/
def editType (type : Handle) (f : TypeFacts → TypeFacts) (t : InMemory) : InMemory :=
  { t with types := t.types.modify type fun l => { l with facts := f l.facts } }

def setSuperclass (type : Handle) (superclass : Option Handle) : InMemory → InMemory :=
  editType type ({ · with superclass := superclass })

def addInterfaceTo (type interface : Handle) : InMemory → InMemory :=
  editType type fun f => { f with interfaces := f.interfaces ++ [interface] }

def setSourceFile (type : Handle) (file : String) : InMemory → InMemory :=
  editType type ({ · with sourceFile := some file })

def setClassLoader (type loader : Handle) : InMemory → InMemory :=
  editType type ({ · with classLoader := some loader })

/-- Add a field to a type. -/
def addField (type : Handle) (name signature : String) : StateM InMemory Handle := do
  let handle ← mint
  modify fun t =>
    { t with
      fields := t.fields.insert handle ⟨name, signature, publicFlag, type⟩
      types := t.types.modify type fun l => { l with fields := l.fields ++ [handle] } }
  return handle

/-- Add a method to a type. -/
def addMethod (type : Handle) (name signature : String) : StateM InMemory Handle := do
  let handle ← mint
  modify fun t =>
    { t with
      methods := t.methods.insert handle ⟨⟨name, signature, publicFlag, type⟩, none, none⟩
      types := t.types.modify type fun l => { l with methods := l.methods ++ [handle] } }
  return handle

def setLineTable (method : Handle) (table : LineTable) (t : InMemory) : InMemory :=
  { t with methods := t.methods.modify method ({ · with lines := some table }) }

def setVariableTable (method : Handle) (table : VariableTable) (t : InMemory) : InMemory :=
  { t with methods := t.methods.modify method ({ · with locals := some table }) }

/-- Add a thread group. -/
def addThreadGroup (name : String) (parent : Option Handle) : StateM InMemory Handle := do
  let handle ← mint
  modify fun t =>
    { t with
      groups := t.groups.insert handle ⟨name, parent⟩
      groupOrder := t.groupOrder ++ [handle] }
  return handle

/-- Start a thread. -/
def addThread (name : String) (group : Handle) : StateM InMemory Handle := do
  let type ← typeNamed "Ljava/lang/Thread;"
  let handle ← mint
  modify fun t =>
    { t with
      threads := t.threads.insert handle ⟨⟨name, group, runningStatus⟩, []⟩
      threadOrder := t.threadOrder ++ [handle]
      objects := t.objects.insert handle (.thread type) }
  return handle

def setThreadStatus (thread : Handle) (status : Int32) (t : InMemory) : InMemory :=
  { t with threads := t.threads.modify thread fun l =>
      { l with facts := { l.facts with status := status } } }

/-- Push a new innermost frame. -/
def pushFrame (thread method : Handle) (index : UInt64) : StateM InMemory Handle := do
  let handle ← mint
  modify fun t =>
    { t with
      frames := t.frames.insert handle ⟨∅, none⟩
      threads := t.threads.modify thread fun l =>
        { l with frames := ⟨handle, method, index⟩ :: l.frames } }
  return handle

def setLocal (frame : Handle) (slot : Int32) (value : TargetValue) (t : InMemory) : InMemory :=
  { t with frames := t.frames.modify frame fun a =>
      { a with locals := a.locals.insert slot value } }

def setReceiver (frame object : Handle) (t : InMemory) : InMemory :=
  { t with frames := t.frames.modify frame ({ · with receiver := some object }) }

/-- Put an object into the heap. -/
def addHeapObject (object : HeapObject) : StateM InMemory Handle := do
  let handle ← mint
  modify fun t => { t with objects := t.objects.insert handle object }
  return handle

/-- Make an object whose fields were not set. -/
def addObject (type : Handle) : StateM InMemory Handle := addHeapObject (.plain type ∅)

/-- Set a field, of plain objects only. -/
def setFieldValue (object field : Handle) (value : TargetValue) (t : InMemory) : InMemory :=
  { t with objects := t.objects.modify object fun
      | .plain type fields => .plain type (fields.insert field value)
      | other => other }

/-- Make a string. -/
def addString (text : String) : StateM InMemory Handle := do
  addHeapObject (.string (← typeNamed "Ljava/lang/String;") text)

/-- Make an array. -/
def addArray (type : Handle) (values : List TargetValue) : StateM InMemory Handle :=
  addHeapObject (.array type values)

/-- The class object of a type.  There is one for each type. -/
def classObject (type : Handle) : StateM InMemory Handle := do
  match (← get).classObjects[type]? with
  | some object => return object
  | none =>
      let object ← addHeapObject (.classObject (← typeNamed "Ljava/lang/Class;") type)
      modify fun t => { t with classObjects := t.classObjects.insert type object }
      return object

/-- Forget an entity, as the collector of a target would. -/
def collect (handle : Handle) (t : InMemory) : InMemory :=
  let t := { t with
    objects := t.objects.erase handle
    frames := t.frames.erase handle
    fields := t.fields.erase handle
    methods := t.methods.erase handle }
  if t.types.contains handle then
    { t with
      types := t.types.erase handle
      loadOrder := t.loadOrder.filter (· ≠ handle)
      bySignature := t.bySignature.filter fun _ type => type ≠ handle }
  else t

/-- Let the target die. -/
def kill (t : InMemory) : InMemory := { t with alive := false }

/-- Let the next call fail. -/
def breakNext (reason : String) (t : InMemory) : InMemory := { t with fault := some reason }

/-! ## Answering -/

/-- The kind of an object; what is no object counts as a plain one. -/
def kindOf (t : InMemory) (handle : Handle) : ObjectKind :=
  (t.objects[handle]?.map HeapObject.kind).getD .plain

/-- A reference to an object. -/
def valueOf (t : InMemory) (handle : Handle) : TargetValue :=
  .reference (.object (t.kindOf handle)) (some handle)

/-- A call that may come before the target fails or dies. -/
def guarded {α : Type} (answer : TargetCall InMemory α) : TargetCall InMemory α := do
  let t ← get
  match t.fault with
  | some reason =>
      set { t with fault := none }
      throw (.broken reason)
  | none => if t.alive then answer else throw (.reported .vmDead)

/-- A call that is answered from the tables, or reported with a code. -/
def lookUp {α : Type} (code : ReplyCode) (find : InMemory → Option α) : TargetCall InMemory α :=
  guarded do
    match find (← get) with
    | some a => return a
    | none => throw (.reported code)

/-- The debug information of a method. -/
def debugInfo {α : Type} (method : Handle) (info : LoadedMethod → Option α) :
    TargetCall InMemory α :=
  guarded do
    match (← get).methods[method]? with
    | none => throw (.reported .invalidMethodId)
    | some m =>
      match info m with
      | some a => return a
      | none => throw (.reported .absentInformation)

/-- The value in a slot of a frame, read under a tag. -/
def readSlot (t : InMemory) (frame : Handle) (slot : Int32) (tag : ValueTag) :
    Except TargetError TargetValue :=
  match t.frames[frame]? with
  | none => .error (.reported .invalidFrameId)
  | some a =>
    match a.locals[slot]? with
    | none => .error (.reported .invalidSlot)
    | some v => if v.fits tag then .ok v else .error (.reported .typeMismatch)

/-- The value of a field.  One that was not set has the default of its signature. -/
def readField (t : InMemory) (object field : Handle) : Except TargetError TargetValue :=
  match t.fields[field]? with
  | none => .error (.reported .invalidFieldId)
  | some facts =>
    match t.objects[object]? with
    | some (.plain _ values) =>
        .ok (values[field]?.getD
          (.default ((ValueTag.ofSignature? facts.signature).getD (.object .plain))))
    | some _ => .error (.reported .invalidFieldId)
    | none => .error (.reported .invalidObject)

/-- A region of an array. -/
def readRegion (t : InMemory) (array : Handle) (first length : Nat) :
    Except TargetError (List TargetValue) :=
  match t.objects[array]? with
  | some (.array _ values) =>
      if first + length ≤ values.length then .ok ((values.drop first).take length)
      else .error (.reported .invalidLength)
  | _ => .error (.reported .invalidArray)

instance : Target InMemory where
  describe _ :=
    { description := "Nova mock VM"
      protocolMajor := 17
      protocolMinor := 0
      version := "17.0.0"
      name := "Nova Mock" }
  isAlive t := t.alive
  capabilities _ := List.replicate 32 false
  allClasses := guarded do return (← get).loadOrder
  typeFacts type := lookUp .invalidClass fun t => t.types[type]?.map (·.facts)
  fields type := lookUp .invalidClass fun t => t.types[type]?.map (·.fields)
  fieldFacts field := lookUp .invalidFieldId fun t => t.fields[field]?
  methods type := lookUp .invalidClass fun t => t.types[type]?.map (·.methods)
  methodFacts method := lookUp .invalidMethodId fun t => t.methods[method]?.map (·.facts)
  lineTable method := debugInfo method (·.lines)
  variableTable method := debugInfo method (·.locals)
  allThreads := guarded do return (← get).threadOrder
  threadFacts thread := lookUp .invalidThread fun t => t.threads[thread]?.map (·.facts)
  topLevelGroups := guarded do
    let t ← get
    return t.groupOrder.filter fun g => (t.groups[g]?).any (·.parent.isNone)
  threadGroupFacts group := lookUp .invalidThreadGroup fun t => t.groups[group]?
  frames thread := lookUp .invalidThread fun t => t.threads[thread]?.map (·.frames)
  frameValue frame slot tag := guarded do
    Attempt.ofExcept ((← get).readSlot frame slot tag)
  receiver frame := lookUp .invalidFrameId fun t => t.frames[frame]?.map (·.receiver)
  objectType object := lookUp .invalidObject fun t => t.objects[object]?.map (·.type)
  objectKind object := lookUp .invalidObject fun t =>
    t.objects[object]?.map fun o => .object o.kind
  fieldValue object field := guarded do
    Attempt.ofExcept ((← get).readField object field)
  stringValue string := lookUp .invalidString fun t =>
    match t.objects[string]? with
    | some (.string _ text) => some text
    | _ => none
  createString text := guarded (Attempt.ofStep (addString text))
  arrayLength array := lookUp .invalidArray fun t =>
    match t.objects[array]? with
    | some (.array _ values) => some values.length
    | _ => none
  arrayValues array first length := guarded do
    Attempt.ofExcept ((← get).readRegion array first length)
  reflectedType object := lookUp .invalidObject fun t =>
    match t.objects[object]? with
    | some (.classObject _ reflected) => some reflected
    | _ => none

end InMemory
end DebugWire

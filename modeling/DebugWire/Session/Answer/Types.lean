import DebugWire.Session.Action

/-!
# Session/Answer/Types — what a debugger can learn of types and methods

Each answer reads its arguments from the payload and gives the body of the reply.
-/

namespace DebugWire.Answer

open DebugWire.Action

variable {σ : Type} [Target σ]

/-! ## Types -/

/-- A type with its facts. -/
def withFacts (type : Handle) : Action σ (Handle × TypeFacts) := do
  return (type, ← call (Target.typeFacts type))

/-- The loaded types with a signature.  All are looked at before the first gets an id. -/
def classesBySignature : Action σ Body := do
  let signature ← read Read.string
  let classes ← (← call Target.allClasses).mapM withFacts
  list (classes.filter (·.2.signature = signature)) fun (type, facts) => do
    let t ← registry (·.registerTagged type facts.typeTag)
    return .ofTypeRef type t ++ .plain (Bytes.ofInt32 facts.status)

/-- The loaded types. -/
def allClasses : Action σ Body := do
  list (← call Target.allClasses) fun type => do
    let facts ← call (Target.typeFacts type)
    let t ← registry (·.registerTagged type facts.typeTag)
    return .ofTypeRef type t ++
      .plain (Bytes.ofString facts.signature ++ Bytes.ofInt32 facts.status)

/-- The facts of the type that the payload names. -/
def factsOfType : Action σ TypeFacts := do
  call (Target.typeFacts (← type))

/-- The signature of a type. -/
def typeSignature : Action σ Bytes := do
  return Bytes.ofString (← factsOfType).signature

/-- The class loader of a type. -/
def classLoader : Action σ Body := do
  idOf? (← factsOfType).classLoader (.object .classLoader)

/-- The modifiers of a type. -/
def typeModifiers : Action σ Bytes := do
  return Bytes.ofInt32 (← factsOfType).modifiers

/-- A member in a list: its id, then its facts. -/
def member (kind : EntityKind) (facts : Handle → TargetCall σ MemberFacts) (h : Handle) :
    Action σ Body := do
  let f ← call (facts h)
  let id ← idOf h kind
  return id ++
    .plain (Bytes.ofString f.name ++ Bytes.ofString f.signature ++ Bytes.ofInt32 f.modifiers)

/-- The fields of a type. -/
def fields : Action σ Body := do
  list (← call (Target.fields (← type))) (member .field Target.fieldFacts)

/-- The methods of a type. -/
def methods : Action σ Body := do
  list (← call (Target.methods (← type))) (member .method Target.methodFacts)

/-- The source file of a type. -/
def sourceFile : Action σ Bytes := do
  match (← factsOfType).sourceFile with
  | some file => return Bytes.ofString file
  | none => refuse .absentInformation

/-- The status of a type. -/
def typeStatus : Action σ Bytes := do
  return Bytes.ofInt32 (← factsOfType).status

/-- The superclass of a class.  What is no class has none to ask for; the root class has null. -/
def superclass : Action σ Body := do
  let id ← read Read.wireId
  let (type, tag) ← lookUp (·.resolveType id)
  if tag ≠ .classType then throw (.invalidId .referenceType id)
  match (← call (Target.typeFacts type)).superclass with
  | some parent => return .ofEntity parent (← typeRef parent).id
  | none => return .plain (Bytes.ofWireId .null)

/-! ## Methods -/

/-- Read a method together with its declaring type.  A method of another type is none. -/
def method : Action σ Handle := do
  let type ← type
  let id ← read Read.wireId
  let method ← lookUp (·.resolve id .method)
  if (← call (Target.methodFacts method)).declaringType ≠ type then throw (.invalidId .method id)
  return method

/-- The lines of a method. -/
def lineTable : Action σ Bytes := do
  let table ← call (Target.lineTable (← method))
  let rows := table.lines.map fun (index, line) => Bytes.ofUInt64 index ++ Bytes.ofInt32 line
  return Bytes.ofInt64 table.start ++ Bytes.ofInt64 table.stop ++
    Bytes.ofCount table.lines.length ++ rows.flatten

/-- The local variables of a method. -/
def variableTable : Action σ Bytes := do
  let table ← call (Target.variableTable (← method))
  let rows := table.slots.map fun v =>
    Bytes.ofUInt64 v.codeIndex ++ Bytes.ofString v.name ++ Bytes.ofString v.signature ++
      Bytes.ofUInt32 v.length ++ Bytes.ofInt32 v.slot
  return Bytes.ofInt32 table.argumentCount ++ Bytes.ofCount table.slots.length ++ rows.flatten

end DebugWire.Answer

import DebugWire.Session.Action

/-!
# Session/Answer/Objects — objects, strings and arrays
-/

namespace DebugWire.Answer

open DebugWire.Action

variable {σ : Type} [Target σ]

/-- The runtime type of an object. -/
def objectType : Action σ Body := do
  let object ← entity (.object .plain)
  typeOf (← call (Target.objectType object))

/-- The values of fields of an object.  Every field is resolved before the first is read. -/
def fieldValues : Action σ Body := do
  let object ← entity (.object .plain)
  let fields ← times (← read Read.count) (entity .field)
  list fields fun field => do
    tagged (← call (Target.fieldValue object field))

/-- Pin an object. -/
def disableCollection : Action σ Bytes := do
  let id ← read Read.wireId
  tryRegistry (·.disableCollection id)
  return []

/-- Remove a pin. -/
def enableCollection : Action σ Bytes := do
  let id ← read Read.wireId
  tryRegistry (·.enableCollection id)
  return []

/-- Whether an object is gone. -/
def isCollected : Action σ Bytes := do
  let id ← read Read.wireId
  return Bytes.ofBool (← lookUp (·.isCollected id))

/-- The type that a class object stands for. -/
def reflectedType : Action σ Body := do
  let object ← entity (.object .classObject)
  typeOf (← call (Target.reflectedType object))

/-! ## Strings -/

/-- The text of a string. -/
def stringValue : Action σ Bytes := do
  return Bytes.ofString (← call (Target.stringValue (← entity (.object .string))))

/-- Make a string in the target. -/
def createString : Action σ Body := do
  let text ← read Read.string
  idOf (← call (Target.createString text)) (.object .string)

/-! ## Arrays -/

/-- How many elements an array has. -/
def arrayLength : Action σ Bytes := do
  return Bytes.ofCount (← call (Target.arrayLength (← entity (.object .array))))

/-- The region that starts at `first`, in an array of `size` elements. -/
def region (first length : Int32) (size : Nat) : Except ReplyCode (Nat × Nat) :=
  if first < 0 ∨ size < first.toNatClampNeg then .error .invalidIndex
  else if length < 0 ∨ size < first.toNatClampNeg + length.toNatClampNeg then
    .error .invalidLength
  else .ok (first.toNatClampNeg, length.toNatClampNeg)

/-- The tag of the elements of an array type. -/
def componentTag? (signature : String) : Option ValueTag :=
  match signature.toList with
  | '[' :: element => ValueTag.ofSignature? (String.ofList element)
  | _ => none

/-- A region of an array: the tag of the elements, then their values.  References bring their own
tags, primitive values do not. -/
def arrayValues : Action σ Body := do
  let array ← entity (.object .array)
  let first ← read Read.int32
  let length ← read Read.int32
  match region first length (← call (Target.arrayLength array)) with
  | .error code => refuse code
  | .ok (first, length) =>
      let facts ← call (Target.typeFacts (← call (Target.objectType array)))
      match componentTag? facts.signature with
      | none => throw (.internal ("array type " ++ facts.signature ++ " has no component"))
      | some tag =>
          let values ← call (Target.arrayValues array first length)
          let body ← list values fun v => if tag.isPrimitive then untagged v else tagged v
          return .plain [tag.number] ++ body

end DebugWire.Answer

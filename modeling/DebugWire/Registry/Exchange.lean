import DebugWire.Registry.Collection
import DebugWire.Value

/-!
# Registry/Exchange — values and positions between target and wire

A target value goes on the wire by registering what it refers to (`toWire`), and comes back by
resolving its id (`fromWire`).  Reading never changes the registry, so a `Decode` only moves a
cursor.
-/

namespace DebugWire

/-- A reader that resolves ids. -/
abbrev Decode := Attempt CommandError Cursor

/-- A reader of plain parts as one that resolves ids. -/
def Decode.part {α : Type} (x : Read α) : Decode α := Attempt.within id (fun t _ => t) .malformed x

/-- A position with its ids resolved. -/
structure CodePosition where
  wire : Position
  declaringType : Handle
  method : Handle
deriving DecidableEq, Repr

namespace Registry

/-! ## Values -/

/-- The wire form of a target value.  What it refers to is registered. -/
def toWire (r : Registry) : TargetValue → WireValue × Registry
  | .primitive p => (.primitive p, r)
  | .reference kind handle =>
      let (id, r) := r.registerOptional handle kind
      match kind with
      | .object k => (.object k id, r)
      | _ => (.object .plain id, r)

/-- The target form of a wire value. -/
def fromWire (r : Registry) : WireValue → Except CommandError TargetValue
  | .primitive p => .ok (.primitive p)
  | .object k id => TargetValue.reference (.object k) <$> r.resolveOptional id (.object k)

/-- The tag and the wire form of a value. -/
def tagged (r : Registry) (v : TargetValue) : Bytes × Registry :=
  let (w, r) := r.toWire v
  (w.tagged, r)

/-- The wire form of a value, without the tag. -/
def untagged (r : Registry) (v : TargetValue) : Bytes × Registry :=
  let (w, r) := r.toWire v
  (w.payload, r)

/-- Read a tagged value. -/
def readTagged (r : Registry) : Decode TargetValue := do
  Attempt.ofExcept (r.fromWire (← Decode.part Read.value))

/-- Read a value whose tag is known. -/
def readUntagged (r : Registry) (tag : ValueTag) : Decode TargetValue := do
  Attempt.ofExcept (r.fromWire (← Decode.part (WireValue.readPayload tag)))

/-! ## Reading ids and positions -/

/-- Read the id of an entity of a kind. -/
def readEntity (r : Registry) (kind : EntityKind) : Decode Handle := do
  Attempt.ofExcept (r.resolve (← Decode.part Read.wireId) kind)

/-- Read the id of a reference type. -/
def readType (r : Registry) : Decode (Handle × TypeTag) := do
  Attempt.ofExcept (r.resolveType (← Decode.part Read.wireId))

/-- Read a position.  All of it is read before any of it is looked at; a tag that is none, or not
the type's own, makes the type invalid. -/
def readPosition (r : Registry) : Decode CodePosition := do
  let raw ← Decode.part Read.uint8
  let typeId ← Decode.part Read.wireId
  let methodId ← Decode.part Read.wireId
  let index ← Decode.part Read.uint64
  match TypeTag.ofNumber? raw with
  | none => throw (.invalidId .referenceType typeId)
  | some tag =>
      let (declaringType, known) ← Attempt.ofExcept (r.resolveType typeId)
      if known ≠ tag then throw (.invalidId .referenceType typeId)
      let method ← Attempt.ofExcept (r.resolve methodId .method)
      return ⟨⟨tag, typeId, methodId, index⟩, declaringType, method⟩

end Registry
end DebugWire

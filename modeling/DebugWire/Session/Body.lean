import DebugWire.Value

/-!
# Session/Body — what a payload is written of

What goes to the debugger is written in pieces: plain bytes, and the ids of entities.  A piece of
the second sort still knows which entity it was written for.  The debugger never sees that: it gets
`Body.bytes`.
-/

namespace DebugWire

/-- A piece of a payload. -/
inductive Piece where
  /-- Bytes that name nothing. -/
  | plain (bytes : Bytes)
  /-- The id of an entity. -/
  | entity (handle : Handle) (id : WireId)
deriving DecidableEq, Repr

/-- The bytes of a piece. -/
def Piece.bytes : Piece → Bytes
  | .plain bytes => bytes
  | .entity _ id => Bytes.ofWireId id

/-- The entity that a piece names, with the id that was written for it. -/
def Piece.name? : Piece → Option (Handle × WireId)
  | .plain _ => none
  | .entity handle id => some (handle, id)

/-- A payload, in pieces. -/
abbrev Body := List Piece

namespace Body

/-- What is sent. -/
def bytes (b : Body) : Bytes := b.flatMap Piece.bytes

/-- The entities that are named, each with the id that was written for it. -/
def names (b : Body) : List (Handle × WireId) := b.filterMap Piece.name?

/-- Bytes that name nothing. -/
def plain (bytes : Bytes) : Body := [.plain bytes]

/-- The id of an entity. -/
def ofEntity (handle : Handle) (id : WireId) : Body := [.entity handle id]

/-- The id of an entity, or null where there is none. -/
def ofOptional (handle : Option Handle) (id : WireId) : Body :=
  match handle with
  | some handle => ofEntity handle id
  | none => plain (Bytes.ofWireId id)

/-- The tag, then the id. -/
def ofTypeRef (type : Handle) (t : TypeRef) : Body :=
  plain (Bytes.ofUInt8 t.tag.number) ++ ofEntity type t.id

/-- The tag of the declaring type, its id, the method and the code index. -/
def ofPosition (declaringType method : Handle) (p : Position) : Body :=
  ofTypeRef declaringType p.typeRef ++ ofEntity method p.method ++
    plain (Bytes.ofUInt64 p.index)

/-- A value without its tag. -/
def ofValue : TargetValue → WireValue → Body
  | .reference _ (some handle), .object _ id => ofEntity handle id
  | _, w => plain w.payload

/-- The tag, then the value. -/
def ofTagged (v : TargetValue) (w : WireValue) : Body := plain [w.tag.number] ++ ofValue v w

@[simp] theorem bytes_append (a b : Body) : (a ++ b).bytes = a.bytes ++ b.bytes :=
  List.flatMap_append

@[simp] theorem bytes_plain (bs : Bytes) : (plain bs).bytes = bs := List.append_nil bs

@[simp] theorem bytes_ofEntity (handle : Handle) (id : WireId) :
    (ofEntity handle id).bytes = Bytes.ofWireId id := List.append_nil _

@[simp] theorem bytes_ofTypeRef (type : Handle) (t : TypeRef) :
    (ofTypeRef type t).bytes = Bytes.ofTypeRef t := by
  rw [ofTypeRef, bytes_append, bytes_plain, bytes_ofEntity, Bytes.ofTypeRef]

@[simp] theorem bytes_ofPosition (declaringType method : Handle) (p : Position) :
    (ofPosition declaringType method p).bytes = Bytes.ofPosition p := by
  rw [ofPosition, bytes_append, bytes_append, bytes_ofTypeRef, bytes_ofEntity, bytes_plain]
  rfl

@[simp] theorem bytes_ofValue (v : TargetValue) (w : WireValue) :
    (ofValue v w).bytes = w.payload := by
  unfold ofValue
  split
  · exact bytes_ofEntity _ _
  · exact bytes_plain _

@[simp] theorem bytes_ofTagged (v : TargetValue) (w : WireValue) :
    (ofTagged v w).bytes = w.tagged := by
  rw [ofTagged, bytes_append, bytes_plain, bytes_ofValue]
  rfl

/-! ## What a body names -/

@[simp] theorem names_append (a b : Body) : (a ++ b).names = a.names ++ b.names :=
  List.filterMap_append

@[simp] theorem names_nil : names [] = [] := rfl

@[simp] theorem names_plain (bs : Bytes) : (plain bs).names = [] := rfl

@[simp] theorem names_ofEntity (handle : Handle) (id : WireId) :
    (ofEntity handle id).names = [(handle, id)] := rfl

@[simp] theorem names_ofTypeRef (type : Handle) (t : TypeRef) :
    (ofTypeRef type t).names = [(type, t.id)] := rfl

@[simp] theorem names_ofPosition (declaringType method : Handle) (p : Position) :
    (ofPosition declaringType method p).names =
      [(declaringType, p.declaringType), (method, p.method)] := rfl

@[simp] theorem names_ofTagged (v : TargetValue) (w : WireValue) :
    (ofTagged v w).names = (ofValue v w).names := rfl

end Body
end DebugWire

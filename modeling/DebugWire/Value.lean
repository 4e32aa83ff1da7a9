import DebugWire.Bytes.Cursor

/-!
# Value — tagged values, as the debugger and as the target see them

A value is a `Primitive` or a reference.  On the wire (`WireValue`) a reference is an id, in the
target (`TargetValue`) it is a handle or null.  A `ValueTag` is one byte that tells the sixteen
forms apart; it fixes how many bytes follow (`ValueTag.width`), and `WireValue.read` reads what
`WireValue.tagged` writes.
-/

namespace DebugWire

/-! ## Tags -/

/-- The values that are no references. -/
inductive PrimitiveTag where
  | byte
  | char
  | float
  | double
  | int
  | long
  | short
  | void
  | boolean
deriving DecidableEq, Repr

/-- The sixteen forms of a value. -/
inductive ValueTag where
  | primitive (t : PrimitiveTag)
  | object (k : ObjectKind)
deriving DecidableEq, Repr

namespace ValueTag

/-- Every tag. -/
def all : List ValueTag :=
  [.object .array, .primitive .byte, .primitive .char, .object .plain, .primitive .float,
    .primitive .double, .primitive .int, .primitive .long, .primitive .short, .primitive .void,
    .primitive .boolean, .object .string, .object .thread, .object .threadGroup,
    .object .classLoader, .object .classObject]

theorem mem_all (t : ValueTag) : t ∈ all := by
  rcases t with t | t <;> cases t <;> decide

/-- The character that stands for the tag. -/
def symbol : ValueTag → Char
  | .object .array => '['
  | .primitive .byte => 'B'
  | .primitive .char => 'C'
  | .object .plain => 'L'
  | .primitive .float => 'F'
  | .primitive .double => 'D'
  | .primitive .int => 'I'
  | .primitive .long => 'J'
  | .primitive .short => 'S'
  | .primitive .void => 'V'
  | .primitive .boolean => 'Z'
  | .object .string => 's'
  | .object .thread => 't'
  | .object .threadGroup => 'g'
  | .object .classLoader => 'l'
  | .object .classObject => 'c'

/-- The byte on the wire: the symbol's ASCII code. -/
def number (t : ValueTag) : UInt8 := UInt8.ofNat t.symbol.toNat

/-- The tag with a given byte. -/
def ofNumber? (n : UInt8) : Option ValueTag :=
  all.find? (·.number == n)

theorem ofNumber?_number (t : ValueTag) : ofNumber? t.number = some t := by
  rcases t with t | t <;> cases t <;> decide

/-- The tag that a declared type implies, before the runtime type is known. -/
def ofSignature? (signature : String) : Option ValueTag := do
  ofNumber? (← (Utf8.encode signature).head?)

/-- The object kind of a reference tag. -/
def objectKind? : ValueTag → Option ObjectKind
  | .primitive _ => none
  | .object k => some k

/-- Whether the tag is that of no reference. -/
def isPrimitive (t : ValueTag) : Bool := t.objectKind?.isNone

/-- The tag of references to entities of a kind. -/
def ofEntityKind? : EntityKind → Option ValueTag
  | .object k => some (.object k)
  | _ => none

/-- How many bytes follow the tag. -/
def width : ValueTag → Nat
  | .primitive .byte => 1
  | .primitive .char => 2
  | .primitive .float => 4
  | .primitive .double => 8
  | .primitive .int => 4
  | .primitive .long => 8
  | .primitive .short => 2
  | .primitive .void => 0
  | .primitive .boolean => 1
  | .object _ => 8

end ValueTag

/-! ## Primitive values -/

/-- A value that is no reference.  A floating-point number is its bits. -/
inductive Primitive where
  | byte (v : Int8)
  | char (v : UInt16)
  | float (bits : UInt32)
  | double (bits : UInt64)
  | int (v : Int32)
  | long (v : Int64)
  | short (v : Int16)
  | boolean (v : Bool)
  | void
deriving DecidableEq, Repr

/-- The tag of a primitive value. -/
def Primitive.tag : Primitive → PrimitiveTag
  | .byte _ => .byte
  | .char _ => .char
  | .float _ => .float
  | .double _ => .double
  | .int _ => .int
  | .long _ => .long
  | .short _ => .short
  | .boolean _ => .boolean
  | .void => .void

/-- The bytes that follow the tag. -/
def Primitive.payload : Primitive → Bytes
  | .byte v => Bytes.ofUInt8 v.toUInt8
  | .char v => Bytes.ofUInt16 v
  | .float bits => Bytes.ofUInt32 bits
  | .double bits => Bytes.ofUInt64 bits
  | .int v => Bytes.ofInt32 v
  | .long v => Bytes.ofInt64 v
  | .short v => Bytes.ofInt16 v
  | .boolean v => Bytes.ofBool v
  | .void => []

namespace PrimitiveTag

/-- The value of a variable that was never set. -/
def zero : PrimitiveTag → Primitive
  | .byte => .byte 0
  | .char => .char 0
  | .float => .float 0
  | .double => .double 0
  | .int => .int 0
  | .long => .long 0
  | .short => .short 0
  | .void => .void
  | .boolean => .boolean false

@[simp] theorem tag_zero (t : PrimitiveTag) : t.zero.tag = t := by
  cases t <;> rfl

/-- Read the bytes that follow the tag. -/
def read : PrimitiveTag → Read Primitive
  | .byte => (Primitive.byte ∘ UInt8.toInt8) <$> Read.uint8
  | .char => Primitive.char <$> Read.uint16
  | .float => Primitive.float <$> Read.uint32
  | .double => Primitive.double <$> Read.uint64
  | .int => Primitive.int <$> Read.int32
  | .long => Primitive.long <$> Read.int64
  | .short => Primitive.short <$> Read.int16
  | .void => pure .void
  | .boolean => Primitive.boolean <$> Read.bool

end PrimitiveTag

/-! ## Wire values -/

/-- A value as the debugger sees it. -/
inductive WireValue where
  | primitive (p : Primitive)
  | object (kind : ObjectKind) (id : WireId)
deriving DecidableEq, Repr

namespace WireValue

/-- The tag of a value. -/
def tag : WireValue → ValueTag
  | .primitive p => .primitive p.tag
  | .object kind _ => .object kind

/-- The id of a reference. -/
def objectId? : WireValue → Option WireId
  | .primitive _ => none
  | .object _ id => some id

/-- A reference with a given tag. -/
def reference? (t : ValueTag) (id : WireId) : Option WireValue :=
  t.objectKind?.map (.object · id)

/-- The value without its tag. -/
def payload : WireValue → Bytes
  | .primitive p => p.payload
  | .object _ id => Bytes.ofWireId id

/-- The tag, then the value. -/
def tagged (v : WireValue) : Bytes := v.tag.number :: v.payload

/-- Read a value whose tag is known. -/
def readPayload : ValueTag → Read WireValue
  | .primitive t => .primitive <$> t.read
  | .object k => .object k <$> Read.wireId

end WireValue

namespace Read

/-- Read the tag of a value. -/
def valueTag : Read ValueTag := do
  let raw ← uint8
  match ValueTag.ofNumber? raw with
  | some tag => return tag
  | none => throw (.unknownTag raw)

/-- Read a tag and the value behind it. -/
def value : Read WireValue := do
  WireValue.readPayload (← valueTag)

end Read

/-! ## Target values -/

/-- A value as the target sees it.  A reference has the runtime kind of what it refers to; without a
handle it is null. -/
inductive TargetValue where
  | primitive (p : Primitive)
  | reference (kind : EntityKind) (handle : Option Handle)
deriving DecidableEq, Repr

namespace TargetValue

/-- The null reference. -/
def null : TargetValue := .reference (.object .plain) none

/-- What a variable with a given tag holds before it is set: zero or null. -/
def default : ValueTag → TargetValue
  | .primitive t => .primitive t.zero
  | .object k => .reference (.object k) none

/-- Whether the value may be read as one with a given tag: any reference as any reference, a
primitive only as itself. -/
def fits (tag : ValueTag) : TargetValue → Bool
  | .primitive p => tag = .primitive p.tag
  | .reference .. => !tag.isPrimitive

end TargetValue
end DebugWire

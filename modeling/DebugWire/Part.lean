import DebugWire.Value

/-!
# Part — what payloads are made of

A payload is a sequence of parts.  `PartKind.read` reads one part of a given kind, `Part.bytes`
writes one; a kind with several readers or writers elsewhere (`Read`, `Bytes`) has one of each here.
-/

namespace DebugWire

/-- One part of a payload. -/
inductive Part where
  | uint8 (v : UInt8)
  | bool (v : Bool)
  | uint16 (v : UInt16)
  | int16 (v : Int16)
  | uint32 (v : UInt32)
  | int32 (v : Int32)
  | uint64 (v : UInt64)
  | int64 (v : Int64)
  | float32 (bits : UInt32)
  | float64 (bits : UInt64)
  | count (n : Nat)
  | string (s : String)
  | bytes (bs : Bytes)
  | wireId (id : WireId)
  | typeTag (t : TypeTag)
  | typeRef (t : TypeRef)
  | position (p : Position)
  /-- What stands in place of a position where there is none. -/
  | noPosition
  /-- A value with its tag. -/
  | tagged (v : WireValue)
  /-- A value without its tag. -/
  | untagged (v : WireValue)
deriving DecidableEq, Repr

/-- The bytes of a part. -/
def Part.bytesOf : Part → Bytes
  | .uint8 v => Bytes.ofUInt8 v
  | .bool v => Bytes.ofBool v
  | .uint16 v => Bytes.ofUInt16 v
  | .int16 v => Bytes.ofInt16 v
  | .uint32 v => Bytes.ofUInt32 v
  | .int32 v => Bytes.ofInt32 v
  | .uint64 v => Bytes.ofUInt64 v
  | .int64 v => Bytes.ofInt64 v
  | .float32 bits => Bytes.ofUInt32 bits
  | .float64 bits => Bytes.ofUInt64 bits
  | .count n => Bytes.ofCount n
  | .string s => Bytes.ofString s
  | .bytes bs => bs
  | .wireId id => Bytes.ofWireId id
  | .typeTag t => Bytes.ofUInt8 t.number
  | .typeRef t => Bytes.ofTypeRef t
  | .position p => Bytes.ofPosition p
  | .noPosition => Bytes.noPosition
  | .tagged v => v.tagged
  | .untagged v => v.payload

/-- The parts that a reader may ask for. -/
inductive PartKind where
  | uint8
  | bool
  | uint16
  | int16
  | uint32
  | int32
  | uint64
  | int64
  | float32
  | float64
  | count
  | string
  /-- So many bytes. -/
  | bytes (n : Nat)
  | wireId
  | typeTag
  | position
  | tagged
  | untagged (t : ValueTag)
deriving DecidableEq, Repr

/-- Read one part. -/
def PartKind.read : PartKind → Read Part
  | .uint8 => Part.uint8 <$> Read.uint8
  | .bool => Part.bool <$> Read.bool
  | .uint16 => Part.uint16 <$> Read.uint16
  | .int16 => Part.int16 <$> Read.int16
  | .uint32 => Part.uint32 <$> Read.uint32
  | .int32 => Part.int32 <$> Read.int32
  | .uint64 => Part.uint64 <$> Read.uint64
  | .int64 => Part.int64 <$> Read.int64
  | .float32 => Part.float32 <$> Read.uint32
  | .float64 => Part.float64 <$> Read.uint64
  | .count => Part.count <$> Read.count
  | .string => Part.string <$> Read.string
  | .bytes n => Part.bytes <$> Read.bytes n
  | .wireId => Part.wireId <$> Read.wireId
  | .typeTag => Part.typeTag <$> Read.typeTag
  | .position => Part.position <$> Read.position
  | .tagged => Part.tagged <$> Read.value
  | .untagged t => Part.untagged <$> WireValue.readPayload t

end DebugWire

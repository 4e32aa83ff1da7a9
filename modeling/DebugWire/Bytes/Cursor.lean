import DebugWire.Attempt
import DebugWire.Fault

/-!
# Bytes/Cursor — reading a payload from front to back

A `Cursor` is a position and the bytes from there on; `Read α` is a reader of an `α`, which answers
or fails and leaves the cursor where the last part it read in full ends.  Everything goes through
`Read.bytes`, which takes all the bytes it needs or none (`bytes_of_le`, `bytes_of_lt`).  The
written forms stand beside the readers, in the namespace `Bytes`.
-/

namespace DebugWire

/-! ## Written forms -/

namespace Bytes

/-- One byte. -/
def ofUInt8 (v : UInt8) : Bytes := [v]

/-- Two bytes. -/
def ofUInt16 (v : UInt16) : Bytes := bigEndian 2 v.toNat

/-- Four bytes. -/
def ofUInt32 (v : UInt32) : Bytes := bigEndian 4 v.toNat

/-- Eight bytes. -/
def ofUInt64 (v : UInt64) : Bytes := bigEndian 8 v.toNat

/-- Two bytes, in two's complement. -/
def ofInt16 (v : Int16) : Bytes := ofUInt16 v.toUInt16

/-- Four bytes, in two's complement. -/
def ofInt32 (v : Int32) : Bytes := ofUInt32 v.toUInt32

/-- Eight bytes, in two's complement. -/
def ofInt64 (v : Int64) : Bytes := ofUInt64 v.toUInt64

/-- One byte, 0 or 1. -/
def ofBool (v : Bool) : Bytes := [if v then 1 else 0]

/-- The length of a list, as a signed number: lengths from 2³¹ on are written as 2³¹ - 1. -/
def ofCount (n : Nat) : Bytes := bigEndian 4 (min n 2147483647)

/-- The length in bytes, then the UTF-8 bytes. -/
def ofString (s : String) : Bytes :=
  bigEndian 4 (Utf8.encode s).length ++ Utf8.encode s

/-- Eight bytes. -/
def ofWireId (id : WireId) : Bytes := ofUInt64 id.raw

/-- The tag, then the id. -/
def ofTypeRef (t : TypeRef) : Bytes := ofUInt8 t.tag.number ++ ofWireId t.id

/-- The tag of the declaring type, its id, the method and the code index. -/
def ofPosition (p : Position) : Bytes :=
  ofUInt8 p.typeTag.number ++ ofWireId p.declaringType ++ ofWireId p.method ++ ofUInt64 p.index

/-- What stands in place of a position where there is none. -/
def noPosition : Bytes := List.replicate 25 0

end Bytes

/-! ## Reading -/

/-- A place in a payload. -/
structure Cursor where
  /-- How many bytes lie in front. -/
  position : Nat
  /-- The bytes from here on. -/
  rest : Bytes
deriving DecidableEq, Repr

namespace Cursor

/-- The front of a payload. -/
def start (payload : Bytes) : Cursor := ⟨0, payload⟩

/-- How many bytes are left. -/
def remaining (c : Cursor) : Nat := c.rest.length

/-- How many bytes the payload has. -/
def length (c : Cursor) : Nat := c.position + c.remaining

/-- The place `n` bytes on. -/
def advance (c : Cursor) (n : Nat) : Cursor := ⟨c.position + n, c.rest.drop n⟩

@[simp] theorem length_start (payload : Bytes) : (start payload).length = payload.length := by
  simp [start, length, remaining]

theorem length_advance {c : Cursor} {n : Nat} (h : n ≤ c.remaining) :
    (c.advance n).length = c.length := by
  simp only [length, advance, remaining, List.length_drop] at *
  omega

end Cursor

/-- A reader. -/
abbrev Read := Attempt DecodeError Cursor

namespace Read

/-- The next `n` bytes, or a refusal that reads nothing. -/
def bytes (n : Nat) : Read Bytes := do
  let c ← get
  if n ≤ c.remaining then
    set (c.advance n)
    return c.rest.take n
  else
    throw (.truncated n c.position c.length)

/-- **Enough bytes are left: they are read.** -/
theorem bytes_of_le {n : Nat} {c : Cursor} (h : n ≤ c.remaining) :
    (bytes n).run c = (.ok (c.rest.take n), c.advance n) := by
  simp [bytes, Attempt.run_bind, h]

/-- **Too few bytes are left: none is read.** -/
theorem bytes_of_lt {n : Nat} {c : Cursor} (h : c.remaining < n) :
    (bytes n).run c = (.error (.truncated n c.position c.length), c) := by
  simp [bytes, Attempt.run_bind, Nat.not_le_of_lt h]

/-- The number that the next `w` bytes spell. -/
def number (w : Nat) : Read Nat := ofBigEndian <$> bytes w

def uint8 : Read UInt8 := UInt8.ofNat <$> number 1
def uint16 : Read UInt16 := UInt16.ofNat <$> number 2
def uint32 : Read UInt32 := UInt32.ofNat <$> number 4
def uint64 : Read UInt64 := UInt64.ofNat <$> number 8
def int16 : Read Int16 := UInt16.toInt16 <$> uint16
def int32 : Read Int32 := UInt32.toInt32 <$> uint32
def int64 : Read Int64 := UInt64.toInt64 <$> uint64

/-- A byte other than 0 is true. -/
def bool : Read Bool := (· != 0) <$> uint8

/-- The length of a list.  A negative one is refused, after its four bytes. -/
def count : Read Nat := do
  let n ← int32
  if n < 0 then throw (.invalidLength n) else return n.toNatClampNeg

/-- A text.  Bytes that are not UTF-8 are refused after the last of them. -/
def string : Read String := do
  let n ← uint32
  let bs ← bytes n.toNat
  match Utf8.decode bs with
  | .ok s => return s
  | .error fault => throw (.invalidString fault)

def wireId : Read WireId := WireId.mk <$> uint64

def typeTag : Read TypeTag := do
  let raw ← uint8
  match TypeTag.ofNumber? raw with
  | some tag => return tag
  | none => throw (.unknownTypeTag raw)

def position : Read Position := do
  let tag ← typeTag
  let declaringType ← wireId
  let method ← wireId
  let index ← uint64
  return ⟨tag, declaringType, method, index⟩

end Read
end DebugWire

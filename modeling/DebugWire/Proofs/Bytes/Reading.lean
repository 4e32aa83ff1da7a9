import DebugWire.Proofs.Bytes.Cursor
import DebugWire.Proofs.Bytes.Utf8
import DebugWire.Value

/-!
# Proofs/Bytes/Reading — what a reader takes, whatever follows

`Reads x bs a` says that `x` takes the bytes `bs` off the front of any payload, and reads `a`.  What
is read one after the other is written so (`Reads.bind`), and each written form in turn is read as
what it was written for, as long as its length fits the field that tells it: up to `Read.value`,
which takes back any value that was written with its tag (`reads_value`).
-/

namespace DebugWire

variable {α β : Type}

/-- The reader takes these bytes, and reads `a`. -/
def Reads (x : Read α) (bs : Bytes) (a : α) : Prop :=
  ∀ p rest, x.run ⟨p, bs ++ rest⟩ = (.ok a, ⟨p + bs.length, rest⟩)

namespace Reads

/-- Bytes are read in one way. -/
theorem unique {x : Read α} {a b : α} {bs : Bytes} (h : Reads x bs a) (h' : Reads x bs b) :
    a = b :=
  Except.ok.inj (congrArg Prod.fst ((h 0 []).symm.trans (h' 0 [])))

theorem pure (a : α) : Reads (Pure.pure a) [] a := fun _ _ => rfl

/-- **One part after the other.** -/
theorem bind {x : Read α} {f : α → Read β} {a : α} {b : β} {bs bs' : Bytes} (hx : Reads x bs a)
    (hf : Reads (f a) bs' b) : Reads (x >>= f) (bs ++ bs') b := by
  intro p rest
  rw [List.append_assoc, Attempt.run_bind_of_ok (hx p _), hf, List.length_append, Nat.add_assoc]

/-- The last part, of which the result is made. -/
theorem map {x : Read α} {a : α} {bs : Bytes} (hx : Reads x bs a) (f : α → β) :
    Reads (f <$> x) bs (f a) := by
  intro p rest
  rw [Attempt.run_map, hx, Attempt.map_ok]

/-- The last part, which is looked at before the result is made. -/
theorem last {x : Read α} {f : α → Read β} {a : α} {b : β} {bs : Bytes} (hx : Reads x bs a)
    (hf : f a = Pure.pure b) : Reads (x >>= f) bs b := by
  have hread := hx.bind (f := f) (hf ▸ Reads.pure b)
  rwa [List.append_nil] at hread

/-- A whole payload is read, to its last byte. -/
theorem run_start {x : Read α} {a : α} {bs : Bytes} (hx : Reads x bs a) :
    x.run (.start bs) = (.ok a, ⟨bs.length, []⟩) := by
  have hrun := hx 0 []
  rwa [List.append_nil, Nat.zero_add] at hrun

end Reads

namespace Read

/-! ## Numbers -/

/-- A number is read back if the width can hold it. -/
theorem reads_number {w n : Nat} (h : n < capacity w) : Reads (number w) (bigEndian w n) n := by
  intro p rest
  rw [run_number, Nat.mod_eq_of_lt h, length_bigEndian]

theorem reads_uint8 (v : UInt8) : Reads uint8 (Bytes.ofUInt8 v) v :=
  fun p rest => run_uint8 v rest p

theorem reads_uint16 (v : UInt16) : Reads uint16 (Bytes.ofUInt16 v) v := by
  have hread := (reads_number (w := 2) v.toNat_lt).map UInt16.ofNat
  rwa [UInt16.ofNat_toNat] at hread

theorem reads_uint32 (v : UInt32) : Reads uint32 (Bytes.ofUInt32 v) v := by
  have hread := (reads_number (w := 4) v.toNat_lt).map UInt32.ofNat
  rwa [UInt32.ofNat_toNat] at hread

theorem reads_uint64 (v : UInt64) : Reads uint64 (Bytes.ofUInt64 v) v := by
  have hread := (reads_number (w := 8) v.toNat_lt).map UInt64.ofNat
  rwa [UInt64.ofNat_toNat] at hread

theorem reads_int16 (v : Int16) : Reads int16 (Bytes.ofInt16 v) v :=
  (reads_uint16 v.toUInt16).map UInt16.toInt16

theorem reads_int32 (v : Int32) : Reads int32 (Bytes.ofInt32 v) v :=
  (reads_uint32 v.toUInt32).map UInt32.toInt32

theorem reads_int64 (v : Int64) : Reads int64 (Bytes.ofInt64 v) v :=
  (reads_uint64 v.toUInt64).map UInt64.toInt64

/-- A boolean is written as 0 or 1, and read as whether the byte is 0. -/
theorem reads_bool (v : Bool) : Reads bool (Bytes.ofBool v) v := by
  have hread := (reads_uint8 (if v then 1 else 0)).map (· != 0)
  cases v <;> exact hread

theorem reads_wireId (id : WireId) : Reads wireId (Bytes.ofWireId id) id :=
  (reads_uint64 id.raw).map WireId.mk

/-! ## Lists and texts -/

/-- A count that fits is written as a signed number. -/
theorem ofCount_eq {n : Nat} (h : n < 2 ^ 31) :
    Bytes.ofCount n = Bytes.ofInt32 (Int32.ofNat n) := by
  have hfits : (UInt32.ofNat n).toNat = n := UInt32.toNat_ofNat_of_lt' (Nat.lt_trans h (by decide))
  have hmin : min n 2147483647 = n := by omega
  rw [Bytes.ofCount, Bytes.ofInt32, Bytes.ofUInt32, Int32.toUInt32_ofNat', hfits, hmin]

/-- A count is read back unless it has too many bits. -/
theorem reads_count {n : Nat} (h : n < 2 ^ 31) : Reads count (Bytes.ofCount n) n := by
  have hnonneg : ¬ Int32.ofNat n < 0 := by
    rw [Int32.lt_iff_toInt_lt, Int32.toInt_ofNat_of_lt h]
    simp
  rw [ofCount_eq h]
  refine (reads_int32 _).last ?_
  rw [if_neg hnonneg, Int32.toNatClampNeg_ofNat_of_lt h]

/-- A text is read back if its length fits the field in front. -/
theorem reads_string {s : String} (h : (Utf8.encode s).length < 2 ^ 32) :
    Reads string (Bytes.ofString s) s := by
  have hlength : (UInt32.ofNat (Utf8.encode s).length).toNat = (Utf8.encode s).length :=
    UInt32.toNat_ofNat_of_lt' h
  have hbytes : Bytes.ofString s =
      Bytes.ofUInt32 (UInt32.ofNat (Utf8.encode s).length) ++ Utf8.encode s := by
    rw [Bytes.ofString, Bytes.ofUInt32, hlength]
  rw [hbytes]
  refine (reads_uint32 _).bind (Reads.last (a := Utf8.encode s) ?_ ?_)
  · rw [hlength]
    exact fun p rest => run_bytes_append _ rest p
  · rw [Utf8.decode_encode]

/-! ## Tags and positions -/

theorem reads_typeTag (tag : TypeTag) : Reads typeTag (Bytes.ofUInt8 tag.number) tag :=
  (reads_uint8 tag.number).last (by rw [TypeTag.ofNumber?_number])

/-- The tag in front, then the three numbers of a position. -/
theorem reads_position (p : Position) : Reads position (Bytes.ofPosition p) p := by
  rw [Bytes.ofPosition, List.append_assoc, List.append_assoc]
  refine (reads_typeTag p.typeTag).bind ((reads_wireId p.declaringType).bind ?_)
  exact (reads_wireId p.method).bind ((reads_uint64 p.index).last rfl)

/-! ## Values -/

/-- By the tag of the primitive, which tells the reader. -/
theorem reads_primitive (v : Primitive) : Reads v.tag.read v.payload v := by
  cases v with
  | byte v => exact (reads_uint8 v.toUInt8).map (Primitive.byte ∘ UInt8.toInt8)
  | char v => exact (reads_uint16 v).map Primitive.char
  | float bits => exact (reads_uint32 bits).map Primitive.float
  | double bits => exact (reads_uint64 bits).map Primitive.double
  | int v => exact (reads_int32 v).map Primitive.int
  | long v => exact (reads_int64 v).map Primitive.long
  | short v => exact (reads_int16 v).map Primitive.short
  | boolean v => exact (reads_bool v).map Primitive.boolean
  | void => exact .pure Primitive.void

theorem reads_valueTag (tag : ValueTag) : Reads valueTag (Bytes.ofUInt8 tag.number) tag :=
  (reads_uint8 tag.number).last (by rw [ValueTag.ofNumber?_number])

/-- A value without its tag is read back by who knows the tag. -/
theorem reads_readPayload (v : WireValue) : Reads (WireValue.readPayload v.tag) v.payload v := by
  cases v with
  | primitive p => exact (reads_primitive p).map WireValue.primitive
  | object kind id => exact (reads_wireId id).map (WireValue.object kind)

/-- **A value is read back.** -/
theorem reads_value (v : WireValue) : Reads value v.tagged v :=
  (reads_valueTag v.tag).bind (reads_readPayload v)

end Read
end DebugWire

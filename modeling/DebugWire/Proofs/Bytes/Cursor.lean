import DebugWire.Bytes.Cursor

/-!
# Proofs/Bytes/Cursor — what was written is read back

A reader of a fixed width takes the bytes that were written for it off the front and leaves the
rest.
-/

namespace DebugWire.Read

/-- Exactly the bytes that are asked for are read. -/
theorem run_bytes_append (bs rest : Bytes) (p : Nat) :
    (bytes bs.length).run ⟨p, bs ++ rest⟩ = (.ok bs, ⟨p + bs.length, rest⟩) := by
  have hle : bs.length ≤ (⟨p, bs ++ rest⟩ : Cursor).remaining := by simp [Cursor.remaining]
  rw [bytes_of_le hle]
  simp [Cursor.advance]

/-- A number is read back, cut to its width. -/
theorem run_number (w n : Nat) (rest : Bytes) (p : Nat) :
    (number w).run ⟨p, bigEndian w n ++ rest⟩ = (.ok (n % capacity w), ⟨p + w, rest⟩) := by
  have hread := run_bytes_append (bigEndian w n) rest p
  rw [length_bigEndian] at hread
  rw [number, Attempt.run_map, hread, Attempt.map_ok, ofBigEndian_bigEndian]

theorem run_uint8 (v : UInt8) (rest : Bytes) (p : Nat) :
    uint8.run ⟨p, Bytes.ofUInt8 v ++ rest⟩ = (.ok v, ⟨p + 1, rest⟩) := by
  have hbytes : Bytes.ofUInt8 v = bigEndian 1 v.toNat := by
    simp [Bytes.ofUInt8, bigEndian, UInt8.ofNat_toNat]
  have hmod : v.toNat % capacity 1 = v.toNat := Nat.mod_eq_of_lt v.toNat_lt
  rw [hbytes, uint8, Attempt.run_map, run_number, Attempt.map_ok, hmod, UInt8.ofNat_toNat]

theorem run_uint64 (v : UInt64) (rest : Bytes) (p : Nat) :
    uint64.run ⟨p, Bytes.ofUInt64 v ++ rest⟩ = (.ok v, ⟨p + 8, rest⟩) := by
  have hmod : v.toNat % capacity 8 = v.toNat := Nat.mod_eq_of_lt v.toNat_lt
  rw [Bytes.ofUInt64, uint64, Attempt.run_map, run_number, Attempt.map_ok, hmod,
    UInt64.ofNat_toNat]

theorem run_wireId (id : WireId) (rest : Bytes) (p : Nat) :
    wireId.run ⟨p, Bytes.ofWireId id ++ rest⟩ = (.ok id, ⟨p + 8, rest⟩) := by
  rw [wireId, Bytes.ofWireId, Attempt.run_map, run_uint64]
  rfl

end DebugWire.Read

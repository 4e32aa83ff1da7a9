import DebugWire.Proofs.Bytes.Cursor
import DebugWire.Proofs.Registry.Recycling

/-!
# Proofs/Registry/Yield — what a debugger gets for an id

An id is looked up on its own (`resolve`, `resolveType`) or as part of a code position.  Each
look-up either refuses the id or ends at the living entry of the id, so an id that is assigned to an
entity yields that entity or is refused (`Assigned.yields`).
-/

namespace DebugWire.Registry

variable {r : Registry}

/-! ## Looking up an id -/

theorem resolve_cases (id : WireId) (expected : EntityKind) :
    r.resolve id expected = .error (.invalidId expected id) ∨
      ∃ e, r.live? id = some e ∧ r.resolve id expected = .ok e.handle := by
  unfold Registry.resolve
  cases r.live? id with
  | none => exact Or.inl rfl
  | some e =>
    simp only
    split
    · exact Or.inr ⟨e, rfl, rfl⟩
    · exact Or.inl rfl

theorem resolveType_cases (id : WireId) :
    r.resolveType id = .error (.invalidId .referenceType id) ∨
      ∃ e tag, r.live? id = some e ∧ r.resolveType id = .ok (e.handle, tag) := by
  unfold Registry.resolveType
  cases r.live? id with
  | none => exact Or.inl rfl
  | some e =>
    rw [Option.bind_some, Entry.type?]
    split
    · next hsome =>
      split at hsome
      · obtain ⟨tag, -, rfl⟩ := Option.map_eq_some_iff.mp hsome
        exact Or.inr ⟨e, tag, rfl, rfl⟩
      · exact absurd hsome nofun
    · exact Or.inl rfl

/-! ## Reading a position -/

/-- What the parts of a position, once they are read, are taken for. -/
def placeAt (r : Registry) (raw : UInt8) (typeId methodId : WireId) (index : UInt64) :
    Except CommandError CodePosition :=
  match TypeTag.ofNumber? raw, r.resolveType typeId with
  | none, _ => .error (.invalidId .referenceType typeId)
  | some _, .error e => .error e
  | some tag, .ok (declaringType, known) =>
      if known = tag then
        (r.resolve methodId .method).map
          (⟨⟨tag, typeId, methodId, index⟩, declaringType, ·⟩)
      else .error (.invalidId .referenceType typeId)

/-- The bytes of a position, whatever stands in place of the tag. -/
def rawPosition (raw : UInt8) (typeId methodId : WireId) (index : UInt64) : Bytes :=
  Bytes.ofUInt8 raw ++ (Bytes.ofWireId typeId ++ (Bytes.ofWireId methodId ++ Bytes.ofUInt64 index))

theorem run_part {α : Type} {x : Read α} {c d : Cursor} {a : α} (h : x.run c = (.ok a, d)) :
    (Decode.part x).run c = (.ok a, d) := by
  rw [Decode.part, Attempt.run_within, id, h]
  rfl

/-- A position is read in full, and then looked at. -/
theorem readPosition_eq : r.readPosition = (do
    let raw ← Decode.part Read.uint8
    let typeId ← Decode.part Read.wireId
    let methodId ← Decode.part Read.wireId
    let index ← Decode.part Read.uint64
    Attempt.ofExcept (r.placeAt raw typeId methodId index)) := by
  refine bind_congr fun raw => bind_congr fun typeId => bind_congr fun methodId =>
    bind_congr fun index => ?_
  unfold placeAt
  cases TypeTag.ofNumber? raw with
  | none => rfl
  | some tag =>
    cases r.resolveType typeId with
    | error e => rfl
    | ok type =>
      obtain ⟨declaringType, known⟩ := type
      by_cases hknown : known = tag
      · subst hknown
        cases r.resolve methodId .method <;> simp [Attempt.ofExcept]
      · simp [Attempt.ofExcept, hknown]

theorem run_readPosition (raw : UInt8) (typeId methodId : WireId) (index : UInt64) (rest : Bytes)
    (p : Nat) :
    r.readPosition.run ⟨p, rawPosition raw typeId methodId index ++ rest⟩ =
      (r.placeAt raw typeId methodId index, ⟨p + 25, rest⟩) := by
  rw [readPosition_eq, rawPosition]
  simp only [List.append_assoc]
  rw [Attempt.run_bind_of_ok (run_part (Read.run_uint8 raw _ p)),
    Attempt.run_bind_of_ok (run_part (Read.run_wireId typeId _ _)),
    Attempt.run_bind_of_ok (run_part (Read.run_wireId methodId _ _)),
    Attempt.run_bind_of_ok (run_part (Read.run_uint64 index rest _)), Attempt.run_ofExcept]

/-- A position is refused for one of its ids, or both stand for what it names. -/
theorem placeAt_cases (raw : UInt8) (typeId methodId : WireId) (index : UInt64) :
    (∃ kind i, r.placeAt raw typeId methodId index = .error (.invalidId kind i)) ∨
      ∃ place e x, r.placeAt raw typeId methodId index = .ok place ∧
        r.live? typeId = some e ∧ r.live? methodId = some x ∧
        place.declaringType = e.handle ∧ place.method = x.handle := by
  unfold placeAt
  cases TypeTag.ofNumber? raw with
  | none => exact Or.inl ⟨_, _, rfl⟩
  | some tag =>
    obtain htype | ⟨e, known, he, htype⟩ := resolveType_cases (r := r) typeId
    · rw [htype]
      exact Or.inl ⟨_, _, rfl⟩
    rw [htype]
    simp only
    split
    · obtain hmethod | ⟨x, hx, hmethod⟩ := resolve_cases (r := r) methodId .method
      · rw [hmethod]
        exact Or.inl ⟨_, _, rfl⟩
      · rw [hmethod]
        exact Or.inr ⟨_, e, x, rfl, he, hx, rfl, rfl⟩
    · exact Or.inl ⟨_, _, rfl⟩

/-! ## What an assigned id yields -/

/-- An id that yields an entity or is refused, whoever looks it up. -/
structure Yields (r : Registry) (id : WireId) (handle : Handle) : Prop where
  resolve : ∀ expected, r.resolve id expected = .error (.invalidId expected id) ∨
    r.resolve id expected = .ok handle
  resolveType : r.resolveType id = .error (.invalidId .referenceType id) ∨
    ∃ tag, r.resolveType id = .ok (handle, tag)
  /-- As the declaring type of a position, or as its method. -/
  position : ∀ raw typeId methodId index rest p,
    (∃ kind i, (r.readPosition.run ⟨p, rawPosition raw typeId methodId index ++ rest⟩).1 =
      .error (.invalidId kind i)) ∨
    ∃ place, (r.readPosition.run ⟨p, rawPosition raw typeId methodId index ++ rest⟩).1 =
        .ok place ∧
      (typeId = id → place.declaringType = handle) ∧ (methodId = id → place.method = handle)

/-- **An assigned id yields its entity or is refused.** -/
theorem Assigned.yields {handle : Handle} {id : WireId} (h : r.Assigned (handle, id)) :
    r.Yields id handle where
  resolve expected := by
    obtain hrefused | ⟨e, he, hresolve⟩ := resolve_cases (r := r) id expected
    · exact Or.inl hrefused
    · rw [h.handle e he] at hresolve
      exact Or.inr hresolve
  resolveType := by
    obtain hrefused | ⟨e, tag, he, hresolve⟩ := resolveType_cases (r := r) id
    · exact Or.inl hrefused
    · rw [h.handle e he] at hresolve
      exact Or.inr ⟨tag, hresolve⟩
  position raw typeId methodId index rest p := by
    rw [run_readPosition]
    obtain hrefused | ⟨place, e, x, hplace, he, hx, htype, hmethod⟩ :=
      placeAt_cases (r := r) raw typeId methodId index
    · exact Or.inl hrefused
    · refine Or.inr ⟨place, hplace, ?_, ?_⟩
      · rintro rfl
        exact htype.trans (h.handle e he)
      · rintro rfl
        exact hmethod.trans (h.handle x hx)

end DebugWire.Registry

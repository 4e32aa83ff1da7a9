import DebugWire.Proofs.Registry.Operation

/-!
# Proofs/Registry/Run — any operations in any order

Whatever a step keeps, a run keeps (`run_induction`), so the table agrees with itself after every
run that leaves room in the counter.  `Represents` spells out, slot by slot, what that means.
-/

namespace DebugWire.Registry

variable {r : Registry}

/-! ## Runs -/

/-- The table after some operations. -/
def run (r : Registry) (ops : List Operation) : Registry :=
  ops.foldl (fun r op => (op.perform r).2) r

/-- Some calls with their answers. -/
def history (r : Registry) : List Operation → List (Operation × Outcome)
  | [] => []
  | op :: ops => (op, (op.perform r).1) :: history (op.perform r).2 ops

@[simp] theorem run_nil (r : Registry) : r.run [] = r := rfl

@[simp] theorem run_cons (r : Registry) (op : Operation) (ops : List Operation) :
    r.run (op :: ops) = (op.perform r).2.run ops := rfl

theorem run_append (r : Registry) (ops ops' : List Operation) :
    r.run (ops ++ ops') = (r.run ops).run ops' := List.foldl_append

theorem later_run (ops : List Operation) (r : Registry) : Later r (r.run ops) := by
  induction ops generalizing r with
  | nil => rfl
  | cons op ops ih => exact (later_perform op).trans (ih _)

/-- The beginning of a run leaves as much room as the whole. -/
theorem hasRoom_take {ops : List Operation} (hroom : (r.run ops).HasRoom) (n : Nat) :
    (r.run (ops.take n)).HasRoom := by
  refine HasRoom.of_later ?_ (later_run (ops.drop n) _)
  rwa [← run_append, List.take_append_drop]

/-- One call further. -/
theorem run_take_succ {ops : List Operation} {n : Nat} {op : Operation} (hop : ops[n]? = some op) :
    r.run (ops.take (n + 1)) = (op.perform (r.run (ops.take n))).2 := by
  rw [List.take_add_one, hop, run_append]
  rfl

/-- Some calls further. -/
theorem run_take_of_le {ops : List Operation} {m n : Nat} (h : m ≤ n) :
    r.run (ops.take n) = (r.run (ops.take m)).run ((ops.take n).drop m) := by
  have htake : (ops.take n).take m = ops.take m := by rw [List.take_take, Nat.min_eq_left h]
  rw [← run_append, ← htake, List.take_append_drop]

/-- A run keeps what every operation keeps. -/
theorem run_induction {P : Registry → Prop} (ops : List Operation) (h : P r)
    (hroom : (r.run ops).HasRoom)
    (step : ∀ r (op : Operation), P r → (op.perform r).2.HasRoom → P (op.perform r).2) :
    P (r.run ops) := by
  induction ops generalizing r with
  | nil => exact h
  | cons op ops ih => exact ih (step r op h (hroom.of_later (later_run ops _))) hroom

theorem WellFormed.run (h : r.WellFormed) (ops : List Operation) (hroom : (r.run ops).HasRoom) :
    (r.run ops).WellFormed :=
  run_induction ops h hroom fun _ op h hroom => (h.evolves_perform op hroom).wellFormed

/-! ## The representation -/

/-- The parts of the table tell the same story. -/
structure Represents (r : Registry) : Prop where
  /-- A full slot has one id, its entry's, which stands for the slot as it is now. -/
  occupied : ∀ (i : Nat) (slot : Slot) (e : Entry), r.slots[i]? = some slot →
    slot.entry = some e → ∀ (id : WireId) (key : SlotKey),
      r.byId[id]? = some key ∧ key.index = i ↔ id = e.id ∧ key = ⟨i, slot.generation⟩
  /-- Every id stands for a full slot. -/
  tracked : ∀ (id : WireId) (key : SlotKey), r.byId[id]? = some key → ∃ slot e,
    r.slots[key.index]? = some slot ∧ slot.generation = key.generation ∧ slot.entry = some e ∧
      e.id = id
  /-- An empty slot is free once, a full one is not. -/
  free : ∀ (i : Nat) (slot : Slot), r.slots[i]? = some slot →
    r.free.count i = if slot.entry.isNone then 1 else 0
  /-- Only slots are free. -/
  free_lt : ∀ i ∈ r.free, i < r.slots.size
  /-- A name stands for the key of the living entry that has it. -/
  named : ∀ (space : IdSpace) (handle : Handle) (key : SlotKey),
    r.byHandle[(⟨space, handle⟩ : EntityKey)]? = some key ↔ ∃ e, r.entryAt? key = some e ∧
      e.dead = false ∧ e.handle = handle ∧ IdSpace.of e.kind = space
  /-- One living entry for each name. -/
  unique : ∀ (key key' : SlotKey) (e e' : Entry), r.entryAt? key = some e →
    r.entryAt? key' = some e' → e.dead = false → e'.dead = false → e.handle = e'.handle →
      IdSpace.of e.kind = IdSpace.of e'.kind → key = key'
  /-- The dead are counted. -/
  dead : r.dead = r.slots.countP Slot.isDead
  /-- Every id that stands for something came from the counter. -/
  range : ∀ (id : WireId) (key : SlotKey), r.byId[id]? = some key →
    r.firstId ≤ id.raw ∧ id.raw < r.nextId

/-- A key that finds an entry is the slot's own. -/
theorem entryAt?_of_slot {i : Nat} {slot : Slot} {e : Entry} (hslot : r.slots[i]? = some slot)
    (he : slot.entry = some e) : r.entryAt? ⟨i, slot.generation⟩ = some e :=
  entryAt?_eq_some_iff.mpr ⟨slot, hslot, rfl, he⟩

/-- **An occupied slot is found by its own id and no other.** -/
theorem WellFormed.occupied (h : r.WellFormed) {i : Nat} {slot : Slot} {e : Entry}
    (hslot : r.slots[i]? = some slot) (he : slot.entry = some e) (id : WireId) (key : SlotKey) :
    r.byId[id]? = some key ∧ key.index = i ↔ id = e.id ∧ key = ⟨i, slot.generation⟩ := by
  have hown := entryAt?_of_slot hslot he
  constructor
  · rintro ⟨hid, hindex⟩
    obtain ⟨x, hx, rfl⟩ := (h.byId id key).mp hid
    obtain rfl : key = ⟨i, slot.generation⟩ := key_eq_of_index_eq hx hown hindex
    obtain rfl : x = e := Option.some.inj (hx.symm.trans hown)
    exact ⟨rfl, rfl⟩
  · rintro ⟨rfl, rfl⟩
    exact ⟨h.byId_of_entryAt? hown, rfl⟩

/-- A slot is on the free list once if it is empty, and else not at all. -/
theorem WellFormed.count_free (h : r.WellFormed) {i : Nat} {slot : Slot}
    (hslot : r.slots[i]? = some slot) :
    r.free.count i = if slot.entry.isNone then 1 else 0 := by
  have hmem : i ∈ r.free ↔ slot.entry.isNone := by
    rw [h.free, hslot]
    simp
  rw [h.nodup_free.count]
  simp only [hmem]

/-- No two living entries bear one name. -/
theorem WellFormed.key_unique (h : r.WellFormed) {key key' : SlotKey} {e e' : Entry}
    (he : r.entryAt? key = some e) (he' : r.entryAt? key' = some e') (halive : e.dead = false)
    (halive' : e'.dead = false) (hname : e.key = e'.key) : key = key' := by
  have hkey := h.byHandle_of_alive he halive
  rw [hname, h.byHandle_of_alive he' halive'] at hkey
  exact (Option.some.inj hkey).symm

/-- Every id on record was handed out by this table. -/
theorem WellFormed.range (h : r.WellFormed) (hroom : r.HasRoom) {id : WireId} {key : SlotKey}
    (hid : r.byId[id]? = some key) : r.firstId ≤ id.raw ∧ id.raw < r.nextId := by
  obtain ⟨e, he, rfl⟩ := (h.byId id key).mp hid
  obtain ⟨hle, hlt⟩ := h.issued key e he
  refine ⟨hle, ?_⟩
  rw [UInt64.lt_iff_toNat_lt, toNat_nextId hroom]
  exact hlt

/-- The representation is read off the invariant. -/
theorem WellFormed.represents (h : r.WellFormed) (hroom : r.HasRoom) : r.Represents where
  occupied _ _ _ hslot he := h.occupied hslot he
  tracked id key hid := by
    obtain ⟨e, he, hsame⟩ := (h.byId id key).mp hid
    obtain ⟨slot, hslot, hgen, hentry⟩ := entryAt?_eq_some_iff.mp he
    exact ⟨slot, e, hslot, hgen, hentry, hsame⟩
  free _ _ hslot := h.count_free hslot
  free_lt i hi := by
    obtain ⟨slot, hslot, -⟩ := (h.free i).mp hi
    exact (Array.getElem?_eq_some_iff.mp hslot).1
  named space handle key := by
    rw [h.byHandle]
    simp only [Entry.key, EntityKey.mk.injEq, and_comm]
  unique _ _ e e' he he' halive halive' hhandle hspace :=
    h.key_unique he he' halive halive'
      (show (⟨_, _⟩ : EntityKey) = ⟨_, _⟩ from by rw [hspace, hhandle])
  dead := h.dead
  range _ _ := h.range hroom

/-- **After any run the parts of the table tell the same story.** -/
theorem run_represents (firstId : UInt64) (threshold : Nat) (ops : List Operation)
    (hroom : ((new firstId threshold).run ops).HasRoom) :
    ((new firstId threshold).run ops).Represents :=
  ((WellFormed.new firstId threshold).run ops hroom).represents hroom

/-- A pinned object whose entity ends, a frame that ends, and a type that takes its place. -/
theorem run_represents_pinned :
    ((new 1 1).run [.register ⟨10⟩ (.object .plain), .disableCollection ⟨1⟩,
      .register ⟨11⟩ .frame, .entityFreed ⟨10⟩, .entityFreed ⟨11⟩,
      .registerTagged ⟨12⟩ .classType]).Represents :=
  run_represents 1 1 _ (by decide)

end DebugWire.Registry

import DebugWire.Proofs.Registry.Run

/-!
# Proofs/Registry/Occupancy — how large the table grows

A slot is free or holds an entry, and an entry lives or is dead, so the counts add up
(`WellFormed.trackedCount_add_free`, `WellFormed.liveCount_add_dead`).  Whatever kills an entry
looks afterwards whether a sweep is due, so between the calls fewer entries are dead than a sweep
waits for (`trackedCount_lt`).  A slot is added only where none is free (`Fits`), so there are as
many as there ever were entries at a time (`bounded_of_run`).
-/

namespace DebugWire.Registry

variable {r s t : Registry}

/-! ## Counting entries -/

/-- The entries of the table, dead or alive. -/
def entries (r : Registry) : List Entry := r.slots.toList.filterMap (·.entry)

/-- An entry is in the list if some key leads to it. -/
theorem mem_entries {e : Entry} : e ∈ r.entries ↔ ∃ key, r.entryAt? key = some e := by
  rw [entries, List.mem_filterMap]
  constructor
  · rintro ⟨slot, hslot, he⟩
    obtain ⟨i, hi⟩ := List.getElem?_of_mem hslot
    rw [Array.getElem?_toList] at hi
    exact ⟨⟨i, slot.generation⟩, entryAt?_of_slot hi he⟩
  · rintro ⟨key, hkey⟩
    obtain ⟨slot, hslot, -, he⟩ := entryAt?_eq_some_iff.mp hkey
    exact ⟨slot, (Array.mem_of_getElem? hslot).val, he⟩

/-- No two slots hold entries of one id. -/
theorem WellFormed.nodup_entries (h : r.WellFormed) : (r.entries.map (·.id)).Nodup := by
  have hkey {i : Nat} (hi : i < r.slots.toList.length) {e : Entry}
      (he : r.slots.toList[i].entry = some e) :
      r.byId[e.id]? = some ⟨i, r.slots.toList[i].generation⟩ := by
    have hslot := List.getElem?_eq_getElem hi
    rw [Array.getElem?_toList] at hslot
    exact h.byId_of_entryAt? (entryAt?_of_slot hslot he)
  rw [List.Nodup, List.pairwise_map, entries, List.pairwise_filterMap, List.pairwise_iff_getElem]
  intro i j hi hj hij e he e' he' hid
  have hsame := (hkey hi he).symm.trans (hid ▸ hkey hj he')
  exact Nat.ne_of_lt hij (congrArg SlotKey.index (Option.some.inj hsame))

/-- **Every tracked id has one entry.** -/
theorem WellFormed.perm_entries (h : r.WellFormed) :
    (r.entries.map (·.id)).Perm r.byId.keys := by
  refine (List.perm_ext_iff_of_nodup h.nodup_entries Std.TreeMap.nodup_keys).mpr fun id => ?_
  rw [List.mem_map, Std.TreeMap.mem_keys, Std.TreeMap.mem_iff_isSome_getElem?,
    Option.isSome_iff_exists]
  constructor
  · rintro ⟨e, he, rfl⟩
    obtain ⟨key, hkey⟩ := mem_entries.mp he
    exact ⟨key, h.byId_of_entryAt? hkey⟩
  · rintro ⟨key, hid⟩
    obtain ⟨e, he, hsame⟩ := (h.byId id key).mp hid
    exact ⟨e, mem_entries.mpr ⟨key, he⟩, hsame⟩

theorem WellFormed.trackedCount_eq (h : r.WellFormed) : r.trackedCount = r.entries.length := by
  rw [trackedCount, ← Std.TreeMap.length_keys, ← h.perm_entries.length_eq, List.length_map]

/-- What is alive among the ids is what is alive among the entries. -/
theorem WellFormed.liveCount_eq (h : r.WellFormed) :
    r.liveCount = r.entries.countP (!·.dead) := by
  rw [liveCount, ← h.perm_entries.countP_eq, List.countP_map]
  refine List.countP_congr fun e he => ?_
  obtain ⟨key, hkey⟩ := mem_entries.mp he
  have htracked := h.tracked?_of_entryAt? hkey
  cases hdead : e.dead <;> simp [live?, htracked, Option.filter, hdead]

/-- **The counter of dead entries is exact.** -/
theorem WellFormed.dead_eq (h : r.WellFormed) : r.dead = r.entries.countP (·.dead) := by
  rw [h.dead, ← Array.countP_toList, entries, List.countP_filterMap]
  refine List.countP_congr fun slot _ => ?_
  rw [Slot.isDead]
  cases slot.entry <;> simp

/-- **An entry lives or is dead.** -/
theorem WellFormed.liveCount_add_dead (h : r.WellFormed) :
    r.liveCount + r.dead = r.trackedCount := by
  rw [h.trackedCount_eq, h.liveCount_eq, h.dead_eq,
    List.length_eq_countP_add_countP (·.dead), Nat.add_comm]
  simp

/-- The places of the empty slots are those that are free. -/
theorem WellFormed.length_free (h : r.WellFormed) :
    r.free.length = r.slots.toList.countP (·.entry.isNone) := by
  have hempty : ((r.slots.toList.zipIdx.filter (·.1.entry.isNone)).map Prod.snd).Perm r.free := by
    refine (List.perm_ext_iff_of_nodup ?_ h.nodup_free).mpr fun i => ?_
    · have hplaces : (r.slots.toList.zipIdx.map Prod.snd).Nodup := by
        rw [List.zipIdx_map_snd]
        exact List.nodup_range' 1
      exact hplaces.sublist (List.filter_sublist.map Prod.snd)
    · rw [List.mem_map, h.free]
      constructor
      · rintro ⟨⟨slot, _⟩, hmem, rfl⟩
        obtain ⟨hslot, hnone⟩ := List.mem_filter.mp hmem
        rw [List.mk_mem_zipIdx_iff_getElem?, Array.getElem?_toList] at hslot
        exact ⟨slot, hslot, Option.isNone_iff_eq_none.mp hnone⟩
      · rintro ⟨slot, hslot, hnone⟩
        refine ⟨(slot, i), List.mem_filter.mpr ⟨?_, Option.isNone_iff_eq_none.mpr hnone⟩, rfl⟩
        rwa [List.mk_mem_zipIdx_iff_getElem?, Array.getElem?_toList]
  rw [← hempty.length_eq, List.length_map, ← List.countP_eq_length_filter]
  calc r.slots.toList.zipIdx.countP (·.1.entry.isNone)
      = (r.slots.toList.zipIdx.map Prod.fst).countP (·.entry.isNone) := by
        rw [List.countP_map]
        rfl
    _ = r.slots.toList.countP (·.entry.isNone) := by rw [List.zipIdx_map_fst]

/-- **A slot is free or holds an entry.** -/
theorem WellFormed.trackedCount_add_free (h : r.WellFormed) :
    r.trackedCount + r.free.length = r.slots.size := by
  rw [h.trackedCount_eq, h.length_free, entries, List.length_filterMap_eq_countP,
    ← Array.length_toList, List.length_eq_countP_add_countP (·.entry.isSome)]
  refine congrArg (_ + ·) (List.countP_congr fun slot _ => ?_)
  cases slot.entry <;> simp

/-! ## What the parts of an operation do to the table -/

/-- As many slots, and the same threshold. -/
structure Sized (r s : Registry) : Prop where
  threshold : s.threshold = r.threshold
  size : s.slots.size = r.slots.size

/-- As many slots, and no more dead entries. -/
structure Trims (r s : Registry) : Prop extends Sized r s where
  dead : s.dead ≤ r.dead

@[refl] theorem Sized.refl (r : Registry) : Sized r r := ⟨rfl, rfl⟩

theorem Sized.trans (h : Sized r s) (h' : Sized s t) : Sized r t :=
  ⟨h'.threshold.trans h.threshold, h'.size.trans h.size⟩

@[refl] theorem Trims.refl (r : Registry) : Trims r r := ⟨.refl r, Nat.le_refl _⟩

theorem Trims.trans (h : Trims r s) (h' : Trims s t) : Trims r t :=
  ⟨h.toSized.trans h'.toSized, Nat.le_trans h'.dead h.dead⟩

theorem trims_update (key : SlotKey) (e : Entry) : Trims r (r.update key e) :=
  ⟨⟨rfl, Array.size_setIfInBounds⟩, Nat.le_refl _⟩

/-- A slot that is emptied stays in the table, on the free list. -/
theorem trims_release (id : WireId) : Trims r (r.release id) := by
  unfold release
  split
  · rfl
  split
  · rfl
  · refine ⟨⟨rfl, Array.size_setIfInBounds⟩, ?_⟩
    simp only
    split
    · exact Nat.sub_le _ _
    · exact Nat.le_refl _

theorem trims_releaseAll (ids : List WireId) (r : Registry) : Trims r (r.releaseAll ids) := by
  induction ids generalizing r with
  | nil => rfl
  | cons id ids ih => exact (trims_release id).trans (ih _)

/-- A sweep releases, and does nothing else. -/
theorem trims_sweepIfDue : Trims r r.sweepIfDue := by
  unfold sweepIfDue
  split
  · exact trims_releaseAll _ r
  · rfl

/-- Marking an entry dead leaves it in its slot, so nothing is trimmed yet. -/
theorem sized_markDead (key : SlotKey) : Sized r (r.markDead key) := by
  unfold markDead
  split
  · rfl
  split
  · rfl
  · exact ⟨rfl, Array.size_setIfInBounds⟩

/-- An entity that goes leaves its entry dead, or pinned and without an entity. -/
theorem sized_freeIn (handle : Handle) (space : IdSpace) : Sized r (r.freeIn handle space) := by
  unfold freeIn
  split
  · rfl
  split
  · rfl
  split
  · exact (trims_update _ _).toSized
  · exact sized_markDead _

theorem sized_freeInAll (handle : Handle) (spaces : List IdSpace) (r : Registry) :
    Sized r (spaces.foldl (freeIn handle) r) := by
  induction spaces generalizing r with
  | nil => rfl
  | cons space spaces ih => exact (sized_freeIn handle space).trans (ih _)

/-! ## Sweeping -/

/-- By induction on the ids; an id that is not tracked is released in vain. -/
theorem WellFormed.tracked?_releaseAll (ids : List WireId) (h : r.WellFormed) (id : WireId) :
    (r.releaseAll ids).tracked? id = if id ∈ ids then none else r.tracked? id := by
  induction ids generalizing r with
  | nil => rfl
  | cons i ids ih =>
    refine (ih (h.release i)).trans ?_
    rw [h.tracked?_release]
    by_cases hi : id = i
    · simp [hi]
    · simp [hi]

/-- After a sweep nobody is dead. -/
theorem WellFormed.dead_sweep (h : r.WellFormed) : r.sweep.2.dead = 0 := by
  have hsweep := h.evolves_sweep.wellFormed
  rw [hsweep.dead_eq, List.countP_eq_zero]
  intro e he hdead
  obtain ⟨key, hkey⟩ := mem_entries.mp he
  have htracked := hsweep.tracked?_of_entryAt? hkey
  rw [sweep, h.tracked?_releaseAll] at htracked
  split at htracked
  · cases htracked
  · next hnot => exact hnot (h.mem_idsWhere.mpr ⟨e, htracked, hdead⟩)

/-- Fewer entries are dead than a sweep waits for. -/
def Swept (r : Registry) : Prop := r.dead < r.threshold

/-- A threshold of zero could not be met, as nothing is fewer than none. -/
theorem WellFormed.swept_sweepIfDue (h : r.WellFormed) (hpos : 0 < r.threshold) :
    r.sweepIfDue.Swept := by
  rw [Swept, trims_sweepIfDue.threshold]
  unfold sweepIfDue
  split
  · rwa [h.dead_sweep]
  · exact Nat.lt_of_not_le ‹_›

/-! ## Calls -/

/-- A call keeps the table small: it leaves no sweep undone, and adds a slot only where none is
free. -/
structure Fits (r s : Registry) : Prop where
  threshold : s.threshold = r.threshold
  swept : r.Swept → s.Swept
  size : s.slots.size = r.slots.size ∨ r.slots.size < s.slots.size ∧ s.free = []

theorem Trims.fits (h : Trims r s) : Fits r s where
  threshold := h.threshold
  swept hr := by
    rw [Swept, h.threshold]
    exact Nat.lt_of_le_of_lt h.dead hr
  size := .inl h.size

/-- Trimming first leaves the room in which the rest fits. -/
theorem Fits.after (h : Trims r s) (h' : Fits s t) : Fits r t where
  threshold := h'.threshold.trans h.threshold
  swept hr := h'.swept (h.fits.swept hr)
  size := h.size ▸ h'.size

/-- Entries may die if a sweep follows. -/
theorem Sized.fits_sweepIfDue (h : Sized r s) (hs : s.WellFormed) : Fits r s.sweepIfDue where
  threshold := trims_sweepIfDue.threshold.trans h.threshold
  swept hr := hs.swept_sweepIfDue (h.threshold ▸ Nat.zero_lt_of_lt hr)
  size := .inl (trims_sweepIfDue.size.trans h.size)

/-- **A slot is added only if no slot is free**, and then all of them are taken. -/
theorem fits_enter (e : Entry) : Fits r (r.enter e) := by
  rw [enter_eq]
  refine ⟨rfl, id, ?_⟩
  simp only
  unfold occupy
  split
  · exact .inl Array.size_setIfInBounds
  · next hfree => exact .inr ⟨by simp, hfree⟩

/-- The sweep comes first, so what it frees is used. -/
theorem fits_issue (handle : Handle) (kind : EntityKind) (tag : Option TypeTag) :
    Fits r (r.sweepIfDue.issue handle kind tag).2 :=
  .after trims_sweepIfDue (fits_enter _)

/-- An entity that has its id already needs no slot. -/
theorem fits_register (handle : Handle) (kind : EntityKind) :
    Fits r (r.register handle kind).2 := by
  unfold register
  split
  · exact (trims_update _ _).fits
  · exact fits_issue handle kind none

theorem fits_registerOptional (handle : Option Handle) (kind : EntityKind) :
    Fits r (r.registerOptional handle kind).2 := by
  cases handle with
  | none => exact (Trims.refl r).fits
  | some handle => exact fits_register handle kind

theorem fits_registerTagged (handle : Handle) (tag : TypeTag) :
    Fits r (r.registerTagged handle tag).2 := by
  unfold registerTagged
  split
  · exact (trims_update _ _).fits
  · exact fits_issue handle .referenceType (some tag)

theorem trims_knownType (handle : Handle) : Trims r (r.knownType handle).2 := by
  unfold knownType
  split
  · exact trims_update _ _
  · rfl

/-- A type whose tag the target does not tell is not entered at all. -/
theorem fits_registerType (handle : Handle) (facts : Except TargetError TypeTag) :
    Fits r (r.registerType handle facts).2 := by
  have hknown := trims_knownType (r := r) handle
  unfold registerType
  rcases hk : r.knownType handle with ⟨known, s⟩
  rw [hk] at hknown
  cases known with
  | some type => exact hknown.fits
  | none =>
    cases facts with
    | error refusal => exact hknown.fits
    | ok tag => exact .after hknown (fits_registerTagged handle tag)

theorem trims_dispose (id : WireId) : Trims r (r.dispose id) := by
  unfold dispose
  split
  · rfl
  · exact trims_release id

theorem trims_disposeObjects (id : WireId) (count : Nat) : Trims r (r.disposeObjects id count) := by
  unfold disposeObjects
  split
  · rfl
  split
  · rfl
  split
  · rfl
  · simp only
    split
    · exact (trims_update _ _).trans (trims_release id)
    · exact trims_update _ _

theorem trims_disableCollection (id : WireId) : Trims r (r.settle (r.disableCollection id)) := by
  unfold disableCollection
  split
  · split
    · exact trims_update _ _
    · rfl
  · rfl

/-- With its last pin an entry dies whose entity went first, and may be swept at once. -/
theorem WellFormed.fits_enableCollection (h : r.WellFormed) (id : WireId) :
    Fits r (r.settle (r.enableCollection id)) := by
  unfold enableCollection
  split
  · next key e hid hlive =>
    obtain ⟨key', hkey', he⟩ := h.exists_key (live?_eq_some_iff.mp hlive).1
    obtain rfl : key = key' := Option.some.inj (hid.symm.trans hkey')
    split
    · simp only [settle, Except.toOption, Option.getD_some]
      split
      · have hupdate := h.update he (w := { e with pins := e.pins - 1 }) rfl rfl rfl
        exact ((trims_update _ _).toSized.trans (sized_markDead key)).fits_sweepIfDue
          (hupdate.markDead key)
      · exact (trims_update _ _).fits
    · exact (Trims.refl r).fits
  · exact (Trims.refl r).fits

/-- **Every call keeps the table small.** -/
theorem WellFormed.fits_perform (h : r.WellFormed) (op : Operation) : Fits r (op.perform r).2 := by
  cases op with
  | register handle kind => exact fits_register handle kind
  | registerOptional handle kind => exact fits_registerOptional handle kind
  | registerType handle facts => exact fits_registerType handle facts
  | registerTagged handle tag => exact fits_registerTagged handle tag
  | toWire value =>
    cases value with
    | primitive p => exact (Trims.refl r).fits
    | reference kind handle =>
      change Fits r (r.toWire (.reference kind handle)).2
      rw [toWire_reference]
      exact fits_registerOptional handle kind
  | dispose id => exact (trims_dispose id).fits
  | disposeObjects id count => exact (trims_disposeObjects id count).fits
  | entityFreed handle =>
    exact (sized_freeInAll handle IdSpace.all r).fits_sweepIfDue
      (h.evolves_freeInAll handle IdSpace.all).wellFormed
  | sweep => exact (trims_releaseAll _ r).fits
  | disableCollection id => exact (trims_disableCollection id).fits
  | enableCollection id => exact h.fits_enableCollection id
  | invalidateFrames => exact (trims_releaseAll _ r).fits
  | disposeAll => exact (trims_releaseAll _ r).fits
  | _ => exact (Trims.refl r).fits

/-! ## Runs -/

/-- The threshold is never changed, so one look after each call is enough. -/
theorem Swept.run (hswept : r.Swept) (h : r.WellFormed) (ops : List Operation)
    (hroom : (r.run ops).HasRoom) :
    (r.run ops).Swept ∧ (r.run ops).threshold = r.threshold := by
  induction ops generalizing r with
  | nil => exact ⟨hswept, rfl⟩
  | cons op ops ih =>
    have hfits := h.fits_perform op
    have hroom' : (op.perform r).2.HasRoom := hroom.of_later (later_run ops _)
    obtain ⟨hlast, hthreshold⟩ := ih (hfits.swept hswept)
      (h.evolves_perform op hroom').wellFormed hroom
    exact ⟨hlast, hthreshold.trans hfits.threshold⟩

theorem WellFormed.trackedCount_le (h : r.WellFormed) : r.trackedCount ≤ r.slots.size :=
  h.trackedCount_add_free ▸ Nat.le_add_right _ _

/-- Along a run the slots are never fewer than the entries, and any that are added were all full
at once. -/
theorem WellFormed.slots_run (h : r.WellFormed) (ops : List Operation)
    (hroom : (r.run ops).HasRoom) :
    (∀ n, (r.run (ops.take n)).slots.size ≤ (r.run ops).slots.size ∧
      (r.run (ops.take n)).trackedCount ≤ (r.run ops).slots.size) ∧
    ((r.run ops).slots.size = r.slots.size ∨
      ∃ n, (r.run (ops.take n)).trackedCount = (r.run ops).slots.size) := by
  induction ops generalizing r with
  | nil =>
    refine ⟨fun n => ?_, .inl rfl⟩
    rw [List.take_nil]
    exact ⟨Nat.le_refl _, h.trackedCount_le⟩
  | cons op ops ih =>
    have hroom' : (op.perform r).2.HasRoom := hroom.of_later (later_run ops _)
    have hnext := (h.evolves_perform op hroom').wellFormed
    obtain ⟨hall, hlast⟩ := ih hnext hroom
    have hsize := (h.fits_perform op).size
    have hgrow : r.slots.size ≤ (op.perform r).2.slots.size := by omega
    have hle : r.slots.size ≤ (r.run (op :: ops)).slots.size := Nat.le_trans hgrow (hall 0).1
    refine ⟨fun n => ?_, ?_⟩
    · cases n with
      | zero => exact ⟨hle, Nat.le_trans h.trackedCount_le hle⟩
      | succ n => exact hall n
    · obtain hlast | ⟨n, hn⟩ := hlast
      · obtain hsame | ⟨-, hfull⟩ := hsize
        · exact .inl (hlast.trans hsame)
        · refine .inr ⟨1, ?_⟩
          have hcount := hnext.trackedCount_add_free
          rw [hfull] at hcount
          exact hcount.trans hlast.symm
      · exact .inr ⟨n + 1, hn⟩

/-- Fewer entries are dead than a sweep waits for. -/
theorem trackedCount_lt (firstId : UInt64) (threshold : Nat) (ops : List Operation)
    (hroom : ((new firstId threshold).run ops).HasRoom) :
    ((new firstId threshold).run ops).trackedCount <
      ((new firstId threshold).run ops).liveCount + max threshold 1 := by
  have hnew := WellFormed.new firstId threshold
  have hswept : (new firstId threshold).Swept :=
    Nat.lt_of_lt_of_le Nat.one_pos (Nat.le_max_right _ _)
  obtain ⟨hlast, hthreshold⟩ := hswept.run hnew ops hroom
  rw [← (hnew.run ops hroom).liveCount_add_dead]
  rw [Swept, hthreshold] at hlast
  exact Nat.add_lt_add_left hlast _

/-- The table is no larger than it must be. -/
structure Bounded (firstId : UInt64) (threshold : Nat) (ops : List Operation) : Prop where
  tracked_lt : ((new firstId threshold).run ops).trackedCount <
    ((new firstId threshold).run ops).liveCount + max threshold 1
  /-- There never were more entries than there are slots, -/
  tracked_le : ∀ n, ((new firstId threshold).run (ops.take n)).trackedCount ≤
    ((new firstId threshold).run ops).slots.size
  /-- and once there were as many. -/
  reached : ∃ n, ((new firstId threshold).run (ops.take n)).trackedCount =
    ((new firstId threshold).run ops).slots.size
  /-- However many entities come and go, what counts is how many there are at a time. -/
  churn : ∀ bound, (∀ n, ((new firstId threshold).run (ops.take n)).liveCount ≤ bound) →
    ((new firstId threshold).run ops).slots.size < bound + max threshold 1

/-- **The table has as many slots as there ever were entries at a time**, and fewer of them are dead
than a sweep waits for. -/
theorem bounded_of_run (firstId : UInt64) (threshold : Nat) (ops : List Operation)
    (hroom : ((new firstId threshold).run ops).HasRoom) : Bounded firstId threshold ops := by
  obtain ⟨hall, hfull⟩ := (WellFormed.new firstId threshold).slots_run ops hroom
  have hreached : ∃ n, ((new firstId threshold).run (ops.take n)).trackedCount =
      ((new firstId threshold).run ops).slots.size := by
    obtain hempty | hreached := hfull
    · exact ⟨0, hempty.symm⟩
    · exact hreached
  refine ⟨trackedCount_lt firstId threshold ops hroom, fun n => (hall n).2, hreached,
    fun bound hbound => ?_⟩
  obtain ⟨n, hn⟩ := hreached
  calc ((new firstId threshold).run ops).slots.size
      = ((new firstId threshold).run (ops.take n)).trackedCount := hn.symm
    _ < ((new firstId threshold).run (ops.take n)).liveCount + max threshold 1 :=
        trackedCount_lt firstId threshold _ (hasRoom_take hroom n)
    _ ≤ bound + max threshold 1 := Nat.add_le_add_right (hbound n) _

/-- Four objects come, three of them go: with a sweep after every second end, two slots do. -/
theorem bounded_of_churn :
    ((new 1 2).run [.register ⟨10⟩ (.object .plain), .entityFreed ⟨10⟩,
      .register ⟨11⟩ (.object .plain), .entityFreed ⟨11⟩, .register ⟨12⟩ (.object .plain),
      .entityFreed ⟨12⟩, .register ⟨13⟩ (.object .plain)]).slots.size = 2 ∧
    Bounded 1 2 [.register ⟨10⟩ (.object .plain), .entityFreed ⟨10⟩,
      .register ⟨11⟩ (.object .plain), .entityFreed ⟨11⟩, .register ⟨12⟩ (.object .plain),
      .entityFreed ⟨12⟩, .register ⟨13⟩ (.object .plain)] :=
  ⟨by decide, bounded_of_run 1 2 _ (by decide)⟩

end DebugWire.Registry

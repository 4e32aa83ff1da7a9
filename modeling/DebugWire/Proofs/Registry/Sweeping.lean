import DebugWire.Proofs.Registry.Run

/-!
# Proofs/Registry/Sweeping — nobody sees a sweep

Two tables are alike if they count alike, the same ids live in them for the same entries, and the
same ids once named something that is no object.  Alike tables give the same answers and stay alike
(`Alike.perform`), and a table is alike before and after a sweep.  So when and how often dead
entries are swept out changes nothing but how many there are to sweep (`answers_eq_of_sweeps`).
-/

namespace DebugWire

namespace Operation

/-- A sweep that is asked for. -/
def isSweep : Operation → Bool
  | .sweep => true
  | _ => false

theorem eq_sweep {op : Operation} (h : op.isSweep = true) : op = .sweep := by
  cases op with
  | sweep => rfl
  | _ => simp [isSweep] at h

/-- Whatever does not count dead entries. -/
def isBlind : Operation → Bool
  | .sweep => false
  | .trackedCount => false
  | _ => true

end Operation

namespace Registry

variable {r s : Registry}

/-! ## Alike tables -/

/-- Two tables that differ in dead entries only. -/
structure Alike (r s : Registry) : Prop where
  firstId : s.firstId = r.firstId
  issued : s.issued = r.issued
  live? : ∀ id, s.live? id = r.live? id
  isOther : ∀ id, s.isOther id = r.isOther id

namespace Alike

theorem symm (h : Alike r s) : Alike s r :=
  ⟨h.firstId.symm, h.issued.symm, fun id => (h.live? id).symm, fun id => (h.isOther id).symm⟩

theorem trans {t : Registry} (h : Alike r s) (h' : Alike s t) : Alike r t :=
  ⟨h'.firstId.trans h.firstId, h'.issued.trans h.issued,
    fun id => (h'.live? id).trans (h.live? id), fun id => (h'.isOther id).trans (h.isOther id)⟩

/-- The threshold is no part of what is seen. -/
theorem new (firstId : UInt64) (threshold threshold' : Nat) :
    Alike (Registry.new firstId threshold) (Registry.new firstId threshold') :=
  ⟨rfl, rfl, fun _ => rfl, fun _ => rfl⟩

/-- Alike tables hand out the same id next. -/
theorem nextId (h : Alike r s) : s.nextId = r.nextId := by
  rw [Registry.nextId, Registry.nextId, h.firstId, h.issued]

theorem hasRoom (h : Alike r s) (hroom : r.HasRoom) : s.HasRoom := by
  unfold HasRoom
  rw [h.firstId, h.issued]
  exact hroom

/-- A name is held by the same entry in both. -/
theorem holder? (h : Alike r s) (hr : r.WellFormed) (hs : s.WellFormed) (name : EntityKey) :
    s.holder? name = r.holder? name := by
  rw [Option.ext_iff]
  intro e
  rw [hs.holder?_eq_some_iff, hr.holder?_eq_some_iff, h.live?]

theorem idFor (h : Alike r s) (hr : r.WellFormed) (hs : s.WellFormed) (name : EntityKey) :
    s.idFor name = r.idFor name := by
  rw [Registry.idFor, Registry.idFor, h.holder? hr hs, h.nextId]

/-- And whoever is new to one is new to the other. -/
theorem newcomer? (h : Alike r s) (hr : r.WellFormed) (hs : s.WellFormed) (op : Operation) :
    op.newcomer? s = op.newcomer? r := by
  unfold Operation.newcomer? Registry.newcomer?
  split
  · rw [h.holder? hr hs, h.nextId]
  · rfl

/-- What happens to alike tables happens alike. -/
theorem of_evolves {r' s' : Registry} {f : Entry → Option Entry} {n : Option Entry}
    (h : Alike r s) (hr : Evolves f n r r') (hs : Evolves f n s s') : Alike r' s' where
  firstId := by rw [hs.firstId, hr.firstId, h.firstId]
  issued := by rw [hs.issued, hr.issued, h.issued]
  live? id := by rw [hs.live?, hr.live?, h.live?]
  isOther id := by rw [hs.isOther, hr.isOther, h.isOther]

end Alike

/-- A sweep leaves a table that is alike. -/
theorem WellFormed.alike_sweep (h : r.WellFormed) : Alike r r.sweep.2 where
  firstId := h.evolves_sweep.firstId
  issued := h.evolves_sweep.issued
  live? id := by
    rw [h.evolves_sweep.live?, Option.filter_none, Option.none_or, Option.bind_fun_some]
  isOther id := by rw [h.evolves_sweep.isOther, Option.any_none, Bool.or_false]

/-! ## The same answers -/

/-- Whether an object is gone, without a look at dead entries. -/
theorem isCollected_eq (id : WireId) :
    r.isCollected id =
      if id = .null ∨ id.raw < r.firstId ∨ r.nextId ≤ id.raw ∨ r.isOther id then
        .error (.invalidId (.object .plain) id)
      else .ok (r.live? id).isNone := by
  unfold isCollected isOther live?
  by_cases hretired : r.retired.contains id.raw.toNat = true
  · simp [hretired]
  · rw [Bool.not_eq_true] at hretired
    cases hid : r.tracked? id with
    | none => simp [hretired]
    | some e =>
      cases hobject : e.kind.isObject with
      | false => simp [hretired, hobject]
      | true => cases hdead : e.dead <;> simp [hretired, hobject, hdead, Option.filter]

/-- The ids that resolve. -/
def livingIds (r : Registry) : List WireId := r.byId.keys.filter fun id => (r.live? id).isSome

theorem liveCount_eq : r.liveCount = r.livingIds.length := List.countP_eq_length_filter

/-- **How many live can be counted by their ids**, which a sweep does not touch. -/
theorem WellFormed.mem_livingIds (h : r.WellFormed) {id : WireId} :
    id ∈ r.livingIds ↔ (r.live? id).isSome := by
  rw [livingIds, List.mem_filter]
  refine ⟨And.right, fun hlive => ⟨?_, hlive⟩⟩
  obtain ⟨e, he⟩ := Option.isSome_iff_exists.mp hlive
  obtain ⟨key, hkey, -⟩ := h.exists_key (live?_eq_some_iff.mp he).1
  exact Std.TreeMap.mem_keys.mpr (Std.TreeMap.mem_iff_isSome_getElem?.mpr (by rw [hkey]; rfl))

theorem nodup_livingIds : r.livingIds.Nodup := Std.TreeMap.nodup_keys.filter _

/-- The slots may differ, so it is the ids that are compared. -/
theorem Alike.liveCount (h : Alike r s) (hr : r.WellFormed) (hs : s.WellFormed) :
    s.liveCount = r.liveCount := by
  rw [liveCount_eq, liveCount_eq]
  refine List.Perm.length_eq ((List.perm_ext_iff_of_nodup nodup_livingIds nodup_livingIds).mpr
    fun id => ?_)
  rw [hs.mem_livingIds, hr.mem_livingIds, h.live?]

/-- Both answer the id on record, or both the next number. -/
theorem Alike.register (h : Alike r s) (hr : r.WellFormed) (hs : s.WellFormed) {handle : Handle}
    {kind : EntityKind} (hroom : (r.register handle kind).2.HasRoom)
    (hroom' : (s.register handle kind).2.HasRoom) :
    (s.register handle kind).1 = (r.register handle kind).1 := by
  rw [(hs.evolves_register handle kind hroom').2, (hr.evolves_register handle kind hroom).2,
    h.idFor hr hs]

theorem Alike.registerOptional (h : Alike r s) (hr : r.WellFormed) (hs : s.WellFormed)
    {handle : Option Handle} {kind : EntityKind}
    (hroom : (r.registerOptional handle kind).2.HasRoom)
    (hroom' : (s.registerOptional handle kind).2.HasRoom) :
    (s.registerOptional handle kind).1 = (r.registerOptional handle kind).1 := by
  cases handle with
  | none => rfl
  | some handle => exact h.register hr hs hroom hroom'

theorem Alike.registerType (h : Alike r s) (hr : r.WellFormed) (hs : s.WellFormed)
    {handle : Handle} {facts : Except TargetError TypeTag}
    (hroom : (r.registerType handle facts).2.HasRoom)
    (hroom' : (s.registerType handle facts).2.HasRoom) :
    (s.registerType handle facts).1 = (r.registerType handle facts).1 := by
  rw [(hs.evolves_registerType handle facts hroom').2,
    (hr.evolves_registerType handle facts hroom).2, typeAnswer, typeAnswer, h.holder? hr hs,
    h.idFor hr hs]

theorem Alike.registerTagged (h : Alike r s) (hr : r.WellFormed) (hs : s.WellFormed)
    {handle : Handle} {tag : TypeTag} (hroom : (r.registerTagged handle tag).2.HasRoom)
    (hroom' : (s.registerTagged handle tag).2.HasRoom) :
    (s.registerTagged handle tag).1 = (r.registerTagged handle tag).1 := by
  rw [(hs.evolves_registerTagged handle tag hroom').2,
    (hr.evolves_registerTagged handle tag hroom).2, typeRefFor, typeRefFor, h.holder? hr hs,
    h.idFor hr hs]

theorem Alike.toWire (h : Alike r s) (hr : r.WellFormed) (hs : s.WellFormed) {value : TargetValue}
    (hroom : (r.toWire value).2.HasRoom) (hroom' : (s.toWire value).2.HasRoom) :
    (s.toWire value).1 = (r.toWire value).1 := by
  cases value with
  | primitive p => rfl
  | reference kind handle =>
    rw [toWire_reference] at hroom hroom' ⊢
    rw [toWire_reference, h.registerOptional hr hs hroom hroom']

/-- What an id resolves to depends on the living entry alone. -/
theorem Alike.resolve (h : Alike r s) (id : WireId) (expected : EntityKind) :
    s.resolve id expected = r.resolve id expected := by
  rw [Registry.resolve, Registry.resolve, h.live?]

theorem Alike.resolveOptional (h : Alike r s) (id : WireId) (expected : EntityKind) :
    s.resolveOptional id expected = r.resolveOptional id expected := by
  rw [Registry.resolveOptional, Registry.resolveOptional, h.resolve]

theorem Alike.fromWire (h : Alike r s) (value : WireValue) :
    s.fromWire value = r.fromWire value := by
  cases value with
  | primitive p => rfl
  | object kind id => rw [Registry.fromWire, Registry.fromWire, h.resolveOptional]

/-- Whether an id was ever that of an object is remembered beyond any sweep. -/
theorem Alike.isCollected (h : Alike r s) (id : WireId) : s.isCollected id = r.isCollected id := by
  rw [isCollected_eq, isCollected_eq, h.firstId, h.nextId, h.isOther, h.live?]

/-- **Alike tables answer alike**, but to whoever counts the dead. -/
theorem Alike.answer (h : Alike r s) (hr : r.WellFormed) (hs : s.WellFormed) (op : Operation)
    (hroom : (op.perform r).2.HasRoom) (hroom' : (op.perform s).2.HasRoom)
    (hblind : op.isBlind = true) : (op.perform s).1 = (op.perform r).1 := by
  cases op with
  | register handle kind => exact congrArg Outcome.id (h.register hr hs hroom hroom')
  | registerOptional handle kind =>
    exact congrArg Outcome.id (h.registerOptional hr hs hroom hroom')
  | registerType handle facts => exact congrArg Outcome.typeRef (h.registerType hr hs hroom hroom')
  | registerTagged handle tag =>
    exact congrArg (Outcome.typeRef ∘ Except.ok) (h.registerTagged hr hs hroom hroom')
  | toWire value => exact congrArg Outcome.wire (h.toWire hr hs hroom hroom')
  | disableCollection id =>
    refine congrArg Outcome.verdict ?_
    rw [(hs.evolves_disableCollection id).2, (hr.evolves_disableCollection id).2, h.live?]
  | enableCollection id =>
    refine congrArg Outcome.verdict ?_
    rw [(hs.evolves_enableCollection id).2, (hr.evolves_enableCollection id).2, h.live?]
  | resolve id expected => exact congrArg Outcome.handle (h.resolve id expected)
  | resolveOptional id expected => exact congrArg Outcome.optional (h.resolveOptional id expected)
  | resolveType id =>
    refine congrArg Outcome.typed ?_
    rw [resolveType, resolveType, h.live?]
  | kindOf id =>
    refine congrArg Outcome.kind ?_
    rw [kindOf?, kindOf?, h.live?]
  | isCollected id => exact congrArg Outcome.collected (h.isCollected id)
  | fromWire value => exact congrArg Outcome.value (h.fromWire value)
  | liveCount => exact congrArg Outcome.count (h.liveCount hr hs)
  | sweep | trackedCount => exact absurd hblind nofun
  | dispose | disposeObjects | entityFreed | invalidateFrames | disposeAll => rfl

/-- The same call leaves as much room in alike tables. -/
theorem Alike.hasRoom_perform (h : Alike r s) (hr : r.WellFormed) (hs : s.WellFormed)
    (op : Operation) (hroom : (op.perform r).2.HasRoom) : (op.perform s).2.HasRoom := by
  unfold HasRoom at *
  rw [(later_perform op).firstId, hs.issued_perform, h.newcomer? hr hs, h.issued, h.firstId]
  rw [(later_perform op).firstId, hr.issued_perform] at hroom
  exact hroom

/-- **Alike tables stay alike.** -/
theorem Alike.perform (h : Alike r s) (hr : r.WellFormed) (hs : s.WellFormed) (op : Operation)
    (hroom : (op.perform r).2.HasRoom) : Alike (op.perform r).2 (op.perform s).2 := by
  have hs' := hs.evolves_perform op (h.hasRoom_perform hr hs op hroom)
  rw [h.newcomer? hr hs] at hs'
  exact h.of_evolves (hr.evolves_perform op hroom) hs'

/-! ## Two runs -/

/-- The calls of a run that do not count dead entries, with their answers. -/
def seen (r : Registry) (ops : List Operation) : List (Operation × Outcome) :=
  (r.history ops).filter (·.1.isBlind)

theorem seen_cons (op : Operation) (ops : List Operation) :
    r.seen (op :: ops) = if op.isBlind then (op, (op.perform r).1) :: (op.perform r).2.seen ops
      else (op.perform r).2.seen ops := by
  rw [seen, history, List.filter_cons]
  rfl

/-- A run is alike the same run without its sweeps.  Room in one of them is room in both. -/
theorem Alike.run_unswept (h : Alike r s) (hr : r.WellFormed) (hs : s.WellFormed)
    (ops : List Operation)
    (hroom : (r.run ops).HasRoom ∨ (s.run (ops.filter (!·.isSweep))).HasRoom) :
    Alike (r.run ops) (s.run (ops.filter (!·.isSweep))) ∧
      s.seen (ops.filter (!·.isSweep)) = r.seen ops := by
  induction ops generalizing r s with
  | nil => exact ⟨h, rfl⟩
  | cons op ops ih =>
    rw [List.filter_cons] at hroom ⊢
    by_cases hsweep : op.isSweep = true
    · obtain rfl := Operation.eq_sweep hsweep
      exact ih (hr.alike_sweep.symm.trans h) hr.evolves_sweep.wellFormed hs hroom
    · rw [Bool.not_eq_true] at hsweep
      rw [hsweep, Bool.not_false, if_pos rfl] at hroom ⊢
      rw [run_cons, run_cons] at hroom ⊢
      have hroom₁ : (op.perform r).2.HasRoom := by
        rcases hroom with hroom | hroom
        · exact hroom.of_later (later_run ops _)
        · exact h.symm.hasRoom_perform hs hr op (hroom.of_later (later_run _ _))
      have hroom₂ := h.hasRoom_perform hr hs op hroom₁
      have hr' := (hr.evolves_perform op hroom₁).wellFormed
      have hs' := (hs.evolves_perform op hroom₂).wellFormed
      obtain ⟨halike, hseen⟩ := ih (h.perform hr hs op hroom₁) hr' hs' hroom
      refine ⟨halike, ?_⟩
      rw [seen_cons, seen_cons, hseen]
      split
      · next hblind => rw [h.answer hr hs op hroom₁ hroom₂ hblind]
      · rfl

/-- **Sweeping is not seen.**  Two runs of the same calls, sweeps aside, with any thresholds: every
call that does not count dead entries gets the same answer in both. -/
theorem answers_eq_of_sweeps (firstId : UInt64) (threshold threshold' : Nat)
    (ops ops' : List Operation) (hcalls : ops'.filter (!·.isSweep) = ops.filter (!·.isSweep))
    (hroom : ((new firstId threshold).run ops).HasRoom) :
    (new firstId threshold').seen ops' = (new firstId threshold).seen ops := by
  have hr := WellFormed.new firstId threshold
  have hs := WellFormed.new firstId threshold'
  obtain ⟨halike, hseen⟩ :=
    (Alike.new firstId threshold threshold).run_unswept hr hr ops (Or.inl hroom)
  rw [← hseen, ← hcalls]
  refine ((Alike.new firstId threshold' threshold).run_unswept hs hr ops' (Or.inr ?_)).2.symm
  rw [hcalls]
  exact halike.hasRoom hroom

/-- An object that is gone is so with a sweep at once, and with none. -/
theorem answers_eq_of_sweep_at_once :
    (new 7 1).seen [.register ⟨10⟩ (.object .plain), .entityFreed ⟨10⟩, .sweep, .isCollected ⟨7⟩,
        .register ⟨10⟩ (.object .string), .liveCount] =
      (new 7 100).seen [.register ⟨10⟩ (.object .plain), .entityFreed ⟨10⟩, .isCollected ⟨7⟩,
        .register ⟨10⟩ (.object .string), .liveCount] :=
  answers_eq_of_sweeps 7 100 1 _ _ rfl (by decide)

end Registry
end DebugWire

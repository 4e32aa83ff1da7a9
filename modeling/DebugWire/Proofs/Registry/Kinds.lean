import DebugWire.Proofs.Registry.Growth

/-!
# Proofs/Registry/Kinds — tables that say of an object what it is

An id that is handed out for an object of some kind need not resolve as one: the kind that is learnt
first stays.  It does if every registration says of an object what it is, or that it is an object
(`Operation.Truthful`): then so does every living entry (`Uniform`), and whatever is registered
resolves as what it was registered as (`Uniform.resolve_register`).  A type needs no such care: its
tag is answered as it is known (`WellFormed.resolveType_registerTagged`).  Whatever the calls were,
a table is uniform by some kinds (`WellFormed.exists_uniform`).
-/

namespace DebugWire

open Registry

/-- A kind that may be told of an entity: that of the object that it is, or of no particular one. -/
def EntityKind.Suits (kinds : Handle → ObjectKind) (handle : Handle) (kind : EntityKind) : Prop :=
  ∀ k, kind = .object k → k = .plain ∨ k = kinds handle

instance (kinds : Handle → ObjectKind) (handle : Handle) :
    (kind : EntityKind) → Decidable (kind.Suits kinds handle)
  | .object k => decidable_of_iff (k = .plain ∨ k = kinds handle)
      ⟨fun h _ hk => EntityKind.object.inj hk ▸ h, fun h => h k rfl⟩
  | .referenceType | .field | .method | .frame => isTrue nofun

namespace EntityKind.Suits

variable {kinds : Handle → ObjectKind} {handle : Handle} {kind known learnt : EntityKind}

/-- That something is an object is true of every object. -/
theorem plain : EntityKind.Suits kinds handle (.object .plain) :=
  fun _ hk => Or.inl (EntityKind.object.inj hk).symm

theorem of_not_object (h : ¬ kind.isObject) : EntityKind.Suits kinds handle kind := by
  rintro k rfl
  exact absurd rfl h

/-- Two truths about one object do not contradict each other. -/
theorem refine (hknown : EntityKind.Suits kinds handle known)
    (hlearnt : EntityKind.Suits kinds handle learnt) :
    EntityKind.Suits kinds handle (known.refine learnt) := by
  unfold EntityKind.refine
  split
  · exact hlearnt
  · exact hknown

/-- **What is learnt of an entity** satisfies what was to be learnt. -/
theorem accepts_refine (hspace : IdSpace.of known = IdSpace.of learnt)
    (hknown : EntityKind.Suits kinds handle known)
    (hlearnt : EntityKind.Suits kinds handle learnt) :
    learnt.accepts (known.refine learnt) := by
  unfold EntityKind.refine
  split
  · exact learnt.accepts_self
  next hplain =>
  cases learnt with
  | object k =>
    have hobject : known.isObject := EntityKind.isObject_eq_of_space hspace
    obtain rfl | rfl := hlearnt k rfl
    · exact hobject
    cases known with
    | object k' =>
      -- what was known is no less than what the object is
      obtain rfl | rfl := hknown k' rfl
      · exact absurd rfl hplain
      · exact EntityKind.accepts_self _
    | _ => exact absurd hobject Bool.false_ne_true
  | _ =>
    rw [EntityKind.eq_of_space hspace Bool.false_ne_true]
    exact EntityKind.accepts_self _

end EntityKind.Suits

/-! ## Calls -/

/-- The call says of an object what it is, or that it is one. -/
def Operation.Truthful (kinds : Handle → ObjectKind) (op : Operation) : Prop :=
  ∀ handle kind, op.subject? = some (handle, kind) → kind.Suits kinds handle

theorem Operation.Truthful.of_subject {kinds : Handle → ObjectKind} {op : Operation}
    {handle : Handle} {kind : EntityKind} (hsubject : op.subject? = some (handle, kind))
    (hkind : kind.Suits kinds handle) : op.Truthful kinds := by
  intro handle' kind' hsubject'
  obtain ⟨rfl, rfl⟩ := Prod.mk.inj (Option.some.inj (hsubject.symm.trans hsubject'))
  exact hkind

/-- A call that registers nothing has nothing to be untruthful about. -/
theorem Operation.Truthful.of_no_subject {kinds : Handle → ObjectKind} {op : Operation}
    (hsubject : op.subject? = none) : op.Truthful kinds :=
  fun _ _ hsubject' => absurd (hsubject.symm.trans hsubject') nofun

/-- The value refers to an object, if to anything, and says of it what it is, or that it is one. -/
inductive TargetValue.Suits (kinds : Handle → ObjectKind) : TargetValue → Prop where
  | primitive (p : Primitive) : Suits kinds (.primitive p)
  | reference {k : ObjectKind} {handle : Option Handle}
      (h : ∀ x, handle = some x → (EntityKind.object k).Suits kinds x) :
      Suits kinds (.reference (.object k) handle)

/-- A value that is written registers what it refers to, as what its tag says. -/
theorem TargetValue.Suits.truthful {kinds : Handle → ObjectKind} {v : TargetValue}
    (h : v.Suits kinds) : (Operation.toWire v).Truthful kinds := by
  cases h with
  | primitive p => exact .of_no_subject rfl
  | @reference k handle hkind =>
    cases handle with
    | none => exact .of_no_subject rfl
    | some handle => exact .of_subject rfl (hkind handle rfl)

/-- The entry is of a kind that suits its entity. -/
def Entry.Suits (kinds : Handle → ObjectKind) (e : Entry) : Prop := e.kind.Suits kinds e.handle

variable {kinds : Handle → ObjectKind} {e x : Entry}

namespace Entry.Suits

/-- An entry learns a kind only by a truthful call. -/
theorem again (h : e.Suits kinds) {handle : Handle} {kind : EntityKind}
    (hname : e.key = ⟨IdSpace.of kind, handle⟩) (hkind : kind.Suits kinds handle)
    (tag : Option TypeTag) : (e.again kind tag).Suits kinds := by
  obtain rfl : e.handle = handle := congrArg EntityKey.handle hname
  exact EntityKind.Suits.refine h hkind

theorem of_returned {count : Nat} (h : e.Suits kinds) (hx : e.returned count = some x) :
    x.Suits kinds := by
  unfold returned at hx
  split at hx
  · exact absurd hx nofun
  · exact Option.some.inj hx ▸ h

theorem of_bereaved (h : e.Suits kinds) (hx : e.bereaved = some x) : x.Suits kinds := by
  unfold bereaved at hx
  split at hx
  · exact Option.some.inj hx ▸ h
  · exact absurd hx nofun

theorem of_unpinned (h : e.Suits kinds) (hx : e.unpinned = some x) : x.Suits kinds := by
  unfold unpinned at hx
  split at hx
  · exact absurd hx nofun
  · exact Option.some.inj hx ▸ h

end Entry.Suits

/-- **A truthful call** leaves of a suitable entry a suitable one. -/
theorem Operation.suits_of_fate {op : Operation} (hop : op.Truthful kinds) (he : e.Suits kinds)
    (h : op.fate e = some x) : x.Suits kinds := by
  have hagain {handle : Handle} {kind : EntityKind} (tag : Option TypeTag)
      (hsubject : op.subject? = some (handle, kind))
      (h : some (if e.key = ⟨IdSpace.of kind, handle⟩ then e.again kind tag else e) = some x) :
      x.Suits kinds := by
    obtain rfl := Option.some.inj h
    split
    · exact he.again ‹_› (hop handle kind hsubject) tag
    · exact he
  cases op with
  | register handle kind => exact hagain none rfl h
  | registerOptional handle kind =>
    cases handle with
    | none => exact Option.some.inj h ▸ he
    | some handle => exact hagain none rfl h
  | registerType handle facts =>
    obtain rfl := Option.some.inj h
    split
    · next hname =>
      have hcounted : e.counted.key = ⟨IdSpace.of .referenceType, handle⟩ := hname
      split
      · next tag _ => exact Entry.Suits.again he hcounted (hop handle _ rfl) (some tag)
      · exact he
    · exact he
  | registerTagged handle tag => exact hagain (some tag) rfl h
  | toWire value =>
    cases value with
    | primitive p => exact Option.some.inj h ▸ he
    | reference kind handle =>
      cases handle with
      | none => exact Option.some.inj h ▸ he
      | some handle => exact hagain none rfl h
  | dispose id => exact Entry.of_ite (o := none) he nofun h
  | disposeObjects id count => exact Entry.of_ite he he.of_returned h
  | entityFreed handle => exact Entry.of_ite he he.of_bereaved h
  | disableCollection id =>
    obtain rfl := Option.some.inj h
    split <;> exact he
  | enableCollection id => exact Entry.of_ite he he.of_unpinned h
  | invalidateFrames => exact Entry.of_ite (o := none) he nofun h
  | disposeAll => exact absurd h nofun
  | _ => exact Option.some.inj h ▸ he

/-! ## Tables -/

namespace Registry

variable {r s : Registry}

/-- What a table says of its objects suits them. -/
structure Uniform (kinds : Handle → ObjectKind) (r : Registry) : Prop where
  wellFormed : r.WellFormed
  suits : ∀ id e, r.live? id = some e → e.Suits kinds

/-- The table comes of truthful calls. -/
def MadeBy (kinds : Handle → ObjectKind) (r : Registry) : Prop :=
  ∃ firstId threshold ops, r = (new firstId threshold).run ops ∧ ∀ op ∈ ops, op.Truthful kinds

/-- In an empty table all is uniform, by any kinds. -/
theorem uniform_new (firstId : UInt64) (threshold : Nat) :
    (new firstId threshold).Uniform kinds where
  wellFormed := .new firstId threshold
  suits id e he := by
    simp [new, live?, tracked?] at he

/-- The entry that comes in is of the kind that was told. -/
theorem suits_of_newcomer? {op : Operation} (hop : op.Truthful kinds)
    (h : op.newcomer? r = some e) : e.Suits kinds := by
  obtain ⟨handle, kind, hsubject, rfl⟩ := exists_subject_of_newcomer? h
  exact hop handle kind hsubject

/-- **What one truthful call preserves.** -/
theorem Uniform.perform (h : r.Uniform kinds) {op : Operation} (hop : op.Truthful kinds)
    (hroom : (op.perform r).2.HasRoom) : (op.perform r).2.Uniform kinds := by
  have hevolves := h.wellFormed.evolves_perform op hroom
  refine ⟨hevolves.wellFormed, fun id x hx => ?_⟩
  rw [hevolves.live?, Option.or_eq_some_iff] at hx
  obtain hnew | ⟨-, hold⟩ := hx
  · exact suits_of_newcomer? hop (Option.filter_eq_some_iff.mp hnew).1
  · obtain ⟨e, he, hfate⟩ := Option.bind_eq_some_iff.mp hold
    exact Operation.suits_of_fate hop (h.suits id e he) hfate

/-- **Truthful calls keep a table uniform.** -/
theorem Uniform.run (h : r.Uniform kinds) {ops : List Operation}
    (hops : ∀ op ∈ ops, op.Truthful kinds) (hroom : (r.run ops).HasRoom) :
    (r.run ops).Uniform kinds := by
  induction ops generalizing r with
  | nil => exact h
  | cons op ops ih =>
    obtain ⟨hop, hops⟩ := List.forall_mem_cons.mp hops
    exact ih (h.perform hop (hroom.of_later (later_run ops _))) hops hroom

/-- So a table that such calls made is uniform. -/
theorem MadeBy.uniform (h : r.MadeBy kinds) (hroom : r.HasRoom) : r.Uniform kinds := by
  obtain ⟨firstId, threshold, ops, rfl, hops⟩ := h
  exact (uniform_new firstId threshold).run hops hroom

/-! ## What is registered resolves -/

/-- What a registration answers with stands for what was there, registered once more, or for an
entry of its own. -/
theorem WellFormed.live_idFor (h : r.WellFormed) (kind : EntityKind) {f : Entry → Entry}
    {handle : Handle} {tag : Option TypeTag}
    (hs : Evolves (fun e => some (if e.key = ⟨IdSpace.of kind, handle⟩ then f e else e))
      (r.newcomer? handle kind tag) r s) :
    (∃ e, r.holder? ⟨IdSpace.of kind, handle⟩ = some e ∧
      s.live? (r.idFor ⟨IdSpace.of kind, handle⟩) = some (f e)) ∨
    r.holder? ⟨IdSpace.of kind, handle⟩ = none ∧
      s.live? (r.idFor ⟨IdSpace.of kind, handle⟩) = some (.fresh ⟨r.nextId⟩ handle kind tag) := by
  rw [hs.live?, idFor, newcomer?]
  cases hholder : r.holder? ⟨IdSpace.of kind, handle⟩ with
  | none => exact Or.inr ⟨rfl, by simp [Entry.fresh]⟩
  | some e =>
    obtain ⟨he, hkey⟩ := h.holder?_eq_some_iff.mp hholder
    exact Or.inl ⟨e, rfl, by simp [he, hkey]⟩

/-- A living type resolves with the tag that it was told first. -/
theorem resolveType_of_live? {id : WireId} {type : Handle × TypeTag} (he : r.live? id = some e)
    (htype : e.type? = some type) : r.resolveType id = .ok type := by
  rw [resolveType, he, Option.bind_some, htype]

/-- What resolves is not null. -/
theorem WellFormed.resolveOptional_of_resolve (h : r.WellFormed) {id : WireId}
    {expected : EntityKind} {handle : Handle} (hr : r.resolve id expected = .ok handle) :
    r.resolveOptional id expected = .ok (some handle) := by
  obtain ⟨e, he, -⟩ := exists_of_resolve hr
  have hne : id ≠ .null := h.id_ne_null (live?_eq_some_iff.mp he).1
  rw [resolveOptional, if_neg hne, hr]
  rfl

/-- **An entity resolves as what it was registered as.** -/
theorem Uniform.resolve_register (h : r.Uniform kinds) {handle : Handle} {kind : EntityKind}
    (hkind : kind.Suits kinds handle) (hroom : (r.register handle kind).2.HasRoom) :
    (r.register handle kind).2.resolve (r.register handle kind).1 kind = .ok handle := by
  obtain ⟨hevolves, hid⟩ := h.wellFormed.evolves_register handle kind hroom
  rw [hid]
  obtain ⟨e, hholder, hlive⟩ | ⟨-, hlive⟩ := h.wellFormed.live_idFor kind hevolves
  · obtain ⟨he, hkey⟩ := h.wellFormed.holder?_eq_some_iff.mp hholder
    obtain rfl : e.handle = handle := congrArg EntityKey.handle hkey
    have haccepts : kind.accepts (e.again kind none).kind :=
      EntityKind.Suits.accepts_refine (congrArg EntityKey.space hkey) (h.suits _ e he) hkind
    rw [resolve_of_live? hlive haccepts]
    rfl
  · exact resolve_of_live? hlive kind.accepts_self

/-- **A type is known by the tag that it was answered with.** -/
theorem WellFormed.resolveType_registerTagged (h : r.WellFormed) {handle : Handle} {tag : TypeTag}
    (hroom : (r.registerTagged handle tag).2.HasRoom) :
    (r.registerTagged handle tag).2.resolveType (r.registerTagged handle tag).1.id =
      .ok (handle, (r.registerTagged handle tag).1.tag) := by
  obtain ⟨hevolves, hanswer⟩ := h.evolves_registerTagged handle tag hroom
  have hlive := h.live_idFor .referenceType hevolves
  rw [hanswer, typeRefFor]
  rw [IdSpace.of] at hlive
  obtain ⟨e, hholder, hlive⟩ | ⟨hholder, hlive⟩ := hlive
  · obtain ⟨he, hkey⟩ := h.holder?_eq_some_iff.mp hholder
    obtain rfl : e.handle = handle := congrArg EntityKey.handle hkey
    refine resolveType_of_live? hlive ?_
    rw [Entry.again_referenceType (Entry.kind_of_space (congrArg EntityKey.space hkey)), hholder]
    exact if_pos (Entry.kind_of_space (congrArg EntityKey.space hkey))
  · refine resolveType_of_live? hlive ?_
    rw [hholder]
    rfl

/-- What stands where an entity may be missing resolves to it, or is null. -/
theorem Uniform.resolveOptional_registerOptional (h : r.Uniform kinds) {handle : Option Handle}
    {kind : EntityKind} (hkind : ∀ x, handle = some x → kind.Suits kinds x)
    (hroom : (r.registerOptional handle kind).2.HasRoom) :
    (r.registerOptional handle kind).2.resolveOptional (r.registerOptional handle kind).1 kind =
      .ok handle := by
  cases handle with
  | none => rfl
  | some handle =>
    have hevolves := (h.wellFormed.evolves_register handle kind hroom).1
    exact hevolves.wellFormed.resolveOptional_of_resolve (h.resolve_register (hkind _ rfl) hroom)

/-- **A value is read back** from its wire form. -/
theorem Uniform.fromWire_toWire (h : r.Uniform kinds) {v : TargetValue} (hv : v.Suits kinds)
    (hroom : (r.toWire v).2.HasRoom) : (r.toWire v).2.fromWire (r.toWire v).1 = .ok v := by
  cases hv with
  | primitive p => rfl
  | @reference k handle hkind =>
    rw [toWire_reference] at hroom ⊢
    have hresolve := h.resolveOptional_registerOptional hkind hroom
    exact congrArg (TargetValue.reference (.object k) <$> ·) hresolve

/-! ## Tables that learn -/

/-- Only truthful registrations lead from one table to the other. -/
def Learns (kinds : Handle → ObjectKind) (r s : Registry) : Prop :=
  ∃ ops, s = r.run ops ∧ ∀ op ∈ ops, op.registers ∧ op.Truthful kinds

namespace Learns

variable {t : Registry}

theorem refl (r : Registry) : Learns kinds r r := ⟨[], rfl, nofun⟩

theorem trans (h : Learns kinds r s) (h' : Learns kinds s t) : Learns kinds r t := by
  obtain ⟨ops, rfl, hops⟩ := h
  obtain ⟨ops', rfl, hops'⟩ := h'
  refine ⟨ops ++ ops', (run_append r ops ops').symm, fun op hop => ?_⟩
  exact (List.mem_append.mp hop).elim (hops op) (hops' op)

theorem perform (op : Operation) (hop : op.registers) (htrue : op.Truthful kinds) (r : Registry) :
    Learns kinds r (op.perform r).2 :=
  ⟨[op], rfl, fun _ h => List.mem_singleton.mp h ▸ ⟨hop, htrue⟩⟩

theorem later (h : Learns kinds r s) : Later r s := by
  obtain ⟨ops, rfl, -⟩ := h
  exact later_run ops r

/-- Learning keeps a table uniform. -/
theorem uniform (h : Learns kinds r s) (hr : r.Uniform kinds) (hroom : s.HasRoom) :
    s.Uniform kinds := by
  obtain ⟨ops, rfl, hops⟩ := h
  exact hr.run (fun op hop => (hops op hop).2) hroom

theorem wellFormed (h : Learns kinds r s) (hr : r.WellFormed) (hroom : s.HasRoom) :
    s.WellFormed := by
  obtain ⟨ops, rfl, -⟩ := h
  exact hr.run ops hroom

/-- **Whatever an id is good for, it stays good for.** -/
theorem extending (h : Learns kinds r s) (hr : r.WellFormed) (hroom : s.HasRoom) : Extends r s := by
  obtain ⟨ops, rfl, hops⟩ := h
  exact hr.extends_run (fun op hop => op.grows_of_registers (hops op hop).1) hroom

end Learns

/-! ## Objects of which it is known what they are -/

/-- The table says of the object what it is, if anything. -/
def KnownAs (r : Registry) (kind : ObjectKind) (handle : Handle) : Prop :=
  ∀ id e, r.live? id = some e → e.handle = handle → e.Suits fun _ => kind

/-- The ids that are in use tell. -/
theorem knownAs_iff {kind : ObjectKind} {handle : Handle} : r.KnownAs kind handle ↔
    ∀ id ∈ r.byId.keys, (r.live? id).all fun e =>
      decide (e.handle = handle → e.kind.Suits (fun _ => kind) e.handle) := by
  constructor
  · intro h id _
    rw [Option.all_eq_true]
    exact fun e he => decide_eq_true (h id e he)
  · intro h id e he
    have hid : id ∈ r.byId.keys := by
      rw [Std.TreeMap.mem_keys, Std.TreeMap.mem_iff_isSome_getElem?]
      cases hkey : r.byId[id]? with
      | none => simp [live?, tracked?, hkey] at he
      | some key => rfl
    have hall := h id hid
    rw [Option.all_eq_true] at hall
    have hsuits : e.handle = handle → e.kind.Suits (fun _ => kind) e.handle :=
      of_decide_eq_true (hall e he)
    exact hsuits

instance (r : Registry) (kind : ObjectKind) (handle : Handle) :
    Decidable (r.KnownAs kind handle) := decidable_of_iff _ knownAs_iff.symm

/-- An object is held in one namespace, whatever its kind. -/
theorem WellFormed.holder_of_live (h : r.WellFormed) {id : WireId} {k : ObjectKind}
    (he : r.live? id = some e) (hk : e.kind = .object k) :
    r.holder? ⟨.objects, e.handle⟩ = some e := by
  obtain rfl := h.id_of_live? he
  exact h.holder?_eq_some_iff.mpr ⟨he, by rw [Entry.key, hk]; rfl⟩

/-- **A table is uniform by some kinds**, and by those of the objects that are known. -/
theorem WellFormed.exists_uniform (h : r.WellFormed) {S : Handle → Prop}
    (hknown : ∀ handle, S handle → r.KnownAs (kinds handle) handle) :
    ∃ kinds', r.Uniform kinds' ∧ ∀ handle, S handle → kinds' handle = kinds handle := by
  classical
  -- of any other object, what is there tells
  let there (handle : Handle) : ObjectKind :=
    ((r.holder? ⟨.objects, handle⟩).map (·.kind.objectKind)).getD .plain
  refine ⟨fun handle => if S handle then kinds handle else there handle, ⟨h, ?_⟩,
    fun handle hS => if_pos hS⟩
  intro id e he k hk
  dsimp only
  by_cases hS : S e.handle
  · rw [if_pos hS]
    exact hknown e.handle hS id e he rfl k hk
  · rw [if_neg hS]
    refine Or.inr ?_
    simp only [there, h.holder_of_live he hk, Option.map_some, Option.getD_some, hk]
    rfl

/-- As `exists_uniform`, where nothing is known. -/
theorem WellFormed.exists_kinds (h : r.WellFormed) : ∃ kinds, r.Uniform kinds := by
  let kinds : Handle → ObjectKind := fun _ => .plain
  have hnone : ∀ handle, False → r.KnownAs (kinds handle) handle := nofun
  obtain ⟨kinds', huniform, -⟩ := h.exists_uniform hnone
  exact ⟨kinds', huniform⟩

end Registry
end DebugWire

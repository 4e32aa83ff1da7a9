import DebugWire.Proofs.Registry.Position

/-!
# Proofs/Registry/Settled — what is known of an entity stays known

Three calls register types, with and without a tag, and any of them may be the first.  But an entry
serves for all that it ever served for (`WellFormed.serves_run`).  So while an id lives its kind
changes only where nothing particular was known, what resolves goes on to resolve, and a tag that
was told is told again (`settled_of_run`).
-/

namespace DebugWire

/-- What satisfies a look-up is what was looked for, or some object where any will do. -/
theorem EntityKind.eq_or_of_accepts {expected known : EntityKind} (h : expected.accepts known) :
    known = expected ∨ expected = .object .plain ∧ known.isObject := by
  unfold accepts at h
  split at h
  · exact .inr ⟨rfl, h⟩
  · exact .inl (of_decide_eq_true h).symm

/-- The type that an answer tells, with its id and its tag. -/
def Operation.told? : Operation → Outcome → Option (Handle × TypeRef)
  | .resolveType id, .typed (.ok (handle, tag)) => some (handle, ⟨tag, id⟩)
  | .registerType handle _, .typeRef (.ok t) => some (handle, t)
  | .registerTagged handle _, .typeRef (.ok t) => some (handle, t)
  | _, _ => none

namespace Registry

variable {r : Registry} {id : WireId} {handle : Handle} {expected k k' : EntityKind}
  {ops : List Operation}

theorem kindOf?_eq_some_iff : r.kindOf? id = some k ↔ ∃ e, r.live? id = some e ∧ e.kind = k := by
  rw [kindOf?, Option.map_eq_some_iff]

/-- An id that is of some kind lives. -/
theorem exists_live_of_kindOf? (h : r.kindOf? id ≠ none) : ∃ e, r.live? id = some e := by
  obtain ⟨k, hk⟩ := Option.ne_none_iff_exists'.mp h
  obtain ⟨e, he, -⟩ := kindOf?_eq_some_iff.mp hk
  exact ⟨e, he⟩

/-! ## Kinds -/

/-- **Only of a plain object more is learnt**: that it is one of a special kind. -/
theorem WellFormed.kindOf?_run (h : r.WellFormed) (hroom : (r.run ops).HasRoom)
    (hk : r.kindOf? id = some k) (hk' : (r.run ops).kindOf? id = some k') :
    k' = k ∨ k = .object .plain ∧ k'.isObject := by
  obtain ⟨e, he, rfl⟩ := kindOf?_eq_some_iff.mp hk
  obtain ⟨x, hx, rfl⟩ := kindOf?_eq_some_iff.mp hk'
  exact EntityKind.eq_or_of_accepts ((h.serves_run hroom he hx).kind e.kind e.kind.accepts_self)

/-- **What resolves goes on to resolve** while the id lives. -/
theorem WellFormed.resolve_run (h : r.WellFormed) (hroom : (r.run ops).HasRoom)
    (hr : r.resolve id expected = .ok handle) (hlive : (r.run ops).kindOf? id ≠ none) :
    (r.run ops).resolve id expected = .ok handle := by
  obtain ⟨e, he, haccepts, rfl⟩ := exists_of_resolve hr
  obtain ⟨x, hx⟩ := exists_live_of_kindOf? hlive
  have hserves := h.serves_run hroom he hx
  rw [← hserves.handle]
  exact resolve_of_live? hx (hserves.kind expected haccepts)

/-- A registration ends no id. -/
theorem WellFormed.kindOf?_register (h : r.WellFormed) {op : Operation} (hop : op.registers)
    (hroom : (op.perform r).2.HasRoom) (hlive : r.kindOf? id ≠ none) :
    (op.perform r).2.kindOf? id ≠ none := by
  obtain ⟨e, he⟩ := exists_live_of_kindOf? hlive
  obtain ⟨x, hx⟩ := Operation.exists_fate_of_registers hop e
  rw [kindOf?, h.live?_perform op hroom he, hx]
  exact Option.some_ne_none x.kind

/-! ## Types -/

/-- The type of a handle is answered with this id and this tag, whoever asks and whatever is said
of it. -/
structure Tells (r : Registry) (handle : Handle) (t : TypeRef) : Prop where
  resolveType : r.resolveType t.id = .ok (handle, t.tag)
  registerType : ∀ facts, (r.registerType handle facts).1 = .ok t
  registerTagged : ∀ tag, (r.registerTagged handle tag).1 = t

theorem WellFormed.resolveType_run (h : r.WellFormed) (hroom : (r.run ops).HasRoom)
    {type : Handle × TypeTag} (hr : r.resolveType id = .ok type)
    (hlive : (r.run ops).kindOf? id ≠ none) : (r.run ops).resolveType id = .ok type := by
  obtain ⟨e, he, htype⟩ := exists_of_resolveType hr
  obtain ⟨x, hx⟩ := exists_live_of_kindOf? hlive
  exact resolveType_of_live? hx ((h.serves_run hroom he hx).type? htype)

/-- What is registered already takes no room. -/
theorem WellFormed.hasRoom_of_holder (h : r.WellFormed) (hroom : r.HasRoom) {op : Operation}
    (hsubject : op.subject? = some (handle, k))
    (hholder : r.holder? ⟨IdSpace.of k, handle⟩ ≠ none) : (op.perform r).2.HasRoom := by
  unfold HasRoom
  rw [(later_perform op).firstId, h.issued_perform, newcomer?_eq_none hsubject hholder]
  exact hroom

/-- **A type that is known with its tag** is answered so by all. -/
theorem WellFormed.tells (h : r.WellFormed) (hroom : r.HasRoom) {t : TypeRef}
    (hr : r.resolveType t.id = .ok (handle, t.tag)) : r.Tells handle t := by
  obtain ⟨e, he, htype⟩ := exists_of_resolveType hr
  obtain ⟨hkind, rfl, htag⟩ := Entry.type?_eq_some_iff.mp htype
  have hid : e.id = t.id := h.id_of_live? he
  have hkey : e.key = ⟨.referenceTypes, e.handle⟩ := by rw [Entry.key, hkind]; rfl
  have hholder : r.holder? ⟨.referenceTypes, e.handle⟩ = some e :=
    h.holder?_eq_some_iff.mpr ⟨hid ▸ he, hkey⟩
  have hcall (op : Operation) (hsubject : op.subject? = some (e.handle, .referenceType)) :
      (op.perform r).2.HasRoom :=
    h.hasRoom_of_holder hroom hsubject (by rw [IdSpace.of, hholder]; exact Option.some_ne_none e)
  refine ⟨hr, fun facts => ?_, fun tag => ?_⟩
  · exact h.registerType_of_resolveType hr facts (hcall (.registerType _ _) rfl)
  · rw [(h.evolves_registerTagged e.handle tag (hcall (.registerTagged _ _) rfl)).2, typeRefFor,
      idFor, hholder, Option.bind_some, htag, Option.map_some, hid]
    rfl

/-- The answer that tells a type is right. -/
theorem WellFormed.resolveType_of_told (h : r.WellFormed) {op : Operation} {t : TypeRef}
    (htold : op.told? (op.perform r).1 = some (handle, t)) (hroom : (op.perform r).2.HasRoom) :
    (op.perform r).2.resolveType t.id = .ok (handle, t.tag) := by
  cases op with
  | resolveType id =>
    change r.resolveType t.id = .ok (handle, t.tag)
    cases hr : r.resolveType id with
    | error e => simp [Operation.perform, Operation.told?, hr] at htold
    | ok type =>
      simp only [Operation.perform, Operation.told?, hr, Option.some.injEq, Prod.mk.injEq] at htold
      obtain ⟨rfl, rfl⟩ := htold
      exact hr
  | registerType handle' facts =>
    cases hr : (r.registerType handle' facts).1 with
    | error e => simp [Operation.perform, Operation.told?, hr] at htold
    | ok type =>
      simp only [Operation.perform, Operation.told?, Prod.map_fst, hr, Option.some.injEq,
        Prod.mk.injEq] at htold
      obtain ⟨rfl, rfl⟩ := htold
      exact h.resolveType_registerType hr hroom
  | registerTagged handle' tag =>
    obtain ⟨rfl, rfl⟩ := Prod.mk.inj (Option.some.inj htold)
    exact h.resolveType_registerTagged hroom
  | _ => exact absurd htold nofun

/-! ## Along a run -/

/-- What is known at some moment of a run stays known. -/
structure Settled (r : Registry) (ops : List Operation) : Prop where
  /-- The kind of an id changes only if it was that of a plain object, to that of another object, -/
  kind : ∀ m n, m ≤ n → ∀ id k k', (r.run (ops.take m)).kindOf? id = some k →
    (r.run (ops.take n)).kindOf? id = some k' → k' ≠ k → k = .object .plain ∧ k'.isObject
  /-- and after it changed it does not change again. -/
  once : ∀ l m n, l ≤ m → m ≤ n → ∀ id k k' k'', (r.run (ops.take l)).kindOf? id = some k →
    (r.run (ops.take m)).kindOf? id = some k' → (r.run (ops.take n)).kindOf? id = some k'' →
    k' ≠ k → k'' = k'
  /-- What resolves goes on to resolve while the id lives, -/
  resolve : ∀ m n, m ≤ n → ∀ id expected handle,
    (r.run (ops.take m)).resolve id expected = .ok handle →
    (r.run (ops.take n)).kindOf? id ≠ none →
    (r.run (ops.take n)).resolve id expected = .ok handle
  /-- and no registration ends it. -/
  lives : ∀ n op, ops[n]? = some op → op.registers →
    ∀ id, (r.run (ops.take n)).kindOf? id ≠ none → (r.run (ops.take (n + 1))).kindOf? id ≠ none
  /-- A tag that was told is told again while the id lives. -/
  type : ∀ m n, m < n → ∀ op handle t, ops[m]? = some op →
    op.told? (op.perform (r.run (ops.take m))).1 = some (handle, t) →
    (r.run (ops.take n)).kindOf? t.id ≠ none → (r.run (ops.take n)).Tells handle t

/-- **What is known once of an entity is known while its id lives**, in whatever order it is
registered, and as whatever. -/
theorem settled_of_run (firstId : UInt64) (threshold : Nat) (ops : List Operation)
    (hroom : ((new firstId threshold).run ops).HasRoom) : Settled (new firstId threshold) ops := by
  have hwf (n : Nat) : ((new firstId threshold).run (ops.take n)).WellFormed :=
    (WellFormed.new firstId threshold).run _ (hasRoom_take hroom n)
  have hbetween {m n : Nat} (hle : m ≤ n) : (((new firstId threshold).run (ops.take m)).run
      ((ops.take n).drop m)).HasRoom := run_take_of_le hle ▸ hasRoom_take hroom n
  have hkind {m n : Nat} (hle : m ≤ n) {id : WireId} {k k' : EntityKind}
      (hk : ((new firstId threshold).run (ops.take m)).kindOf? id = some k)
      (hk' : ((new firstId threshold).run (ops.take n)).kindOf? id = some k') :
      k' = k ∨ k = .object .plain ∧ k'.isObject := by
    rw [run_take_of_le hle] at hk'
    exact (hwf m).kindOf?_run (hbetween hle) hk hk'
  constructor
  · intro m n hle id k k' hk hk' hne
    exact (hkind hle hk hk').resolve_left hne
  · intro l m n hlm hmn id k k' k'' hk hk' hk'' hne
    -- the first change leaves no plain object, and nothing else changes
    obtain ⟨rfl, -⟩ := (hkind hlm hk hk').resolve_left hne
    exact (hkind hmn hk' hk'').resolve_right fun hplain => hne hplain.1
  · intro m n hle id expected handle hr hlive
    rw [run_take_of_le hle] at hlive ⊢
    exact (hwf m).resolve_run (hbetween hle) hr hlive
  · intro n op hop hregisters id hlive
    rw [run_take_succ hop]
    exact (hwf n).kindOf?_register hregisters (run_take_succ hop ▸ hasRoom_take hroom (n + 1)) hlive
  · intro m n hlt op handle t hop htold hlive
    have htype := (hwf m).resolveType_of_told htold
      (run_take_succ hop ▸ hasRoom_take hroom (m + 1))
    rw [← run_take_succ hop] at htype
    refine (hwf n).tells (hasRoom_take hroom n) ?_
    rw [run_take_of_le hlt] at hlive ⊢
    exact (hwf (m + 1)).resolveType_run (hbetween hlt) htype hlive

/-- A type that was registered without a tag, then as an interface, then as a class, and an object
that was taken for a string before it was taken for an array: the type is an interface for good, and
the object a string. -/
theorem settled_of_conflicts :
    ((new 1 16).run [.register ⟨10⟩ .referenceType, .registerType ⟨10⟩ (.ok .interfaceType),
      .registerTagged ⟨10⟩ .classType, .register ⟨11⟩ (.object .plain),
      .register ⟨11⟩ (.object .string), .register ⟨11⟩ (.object .array)]).Tells
        ⟨10⟩ ⟨.interfaceType, ⟨1⟩⟩ ∧
    ((new 1 16).run [.register ⟨10⟩ .referenceType, .registerType ⟨10⟩ (.ok .interfaceType),
      .registerTagged ⟨10⟩ .classType, .register ⟨11⟩ (.object .plain),
      .register ⟨11⟩ (.object .string), .register ⟨11⟩ (.object .array)]).resolve
        ⟨2⟩ (.object .string) = .ok ⟨11⟩ := by
  have hsettled := settled_of_run 1 16 [.register ⟨10⟩ .referenceType,
    .registerType ⟨10⟩ (.ok .interfaceType), .registerTagged ⟨10⟩ .classType,
    .register ⟨11⟩ (.object .plain), .register ⟨11⟩ (.object .string),
    .register ⟨11⟩ (.object .array)] (by decide)
  constructor
  · exact hsettled.type 1 6 (by decide) _ _ _ rfl rfl (by decide)
  · exact hsettled.resolve 5 6 (by decide) _ _ _ rfl (by decide)

end Registry
end DebugWire

import DebugWire.Proofs.Registry.Run

/-!
# Proofs/Registry/Recycling — an id stands for one entity only

`Follows r s` says that `s` may come of `r`: the table still agrees with itself, and an id that
lives in `s` and was issued in `r` lived in `r` too, under the same name.  An id is `Assigned` to an
entity if it was issued and stands for nothing else; that is never undone (`Assigned.of_follows`).
Ids are issued in ascending order (`issuedIds_ascend`), and none is taken back.
-/

namespace DebugWire

/-- An entity, and an id that was handed out for it. -/
abbrev Naming := Handle × WireId

namespace Registry

variable {r s t : Registry}

/-! ## Later tables -/

/-- What no step can break. -/
structure Follows (r s : Registry) : Prop where
  later : Later r s
  wellFormed : r.WellFormed → s.HasRoom → s.WellFormed
  /-- An id that was issued does not come to life again. -/
  keeps : r.WellFormed → s.HasRoom → ∀ id e, s.live? id = some e → r.Issued id →
    ∃ x, r.live? id = some x ∧ x.key = e.key

@[refl] theorem Follows.refl (r : Registry) : Follows r r where
  later := .refl r
  wellFormed h _ := h
  keeps _ _ _ e he _ := ⟨e, he, rfl⟩

theorem Follows.trans (h : Follows r s) (h' : Follows s t) : Follows r t where
  later := h.later.trans h'.later
  wellFormed hr hroom := h'.wellFormed (h.wellFormed hr (hroom.of_later h'.later)) hroom
  keeps hr hroom id e he hid := by
    have hroom' := hroom.of_later h'.later
    have hs := h.wellFormed hr hroom'
    obtain ⟨x, hx, hkey⟩ := h'.keeps hs hroom id e he (hid.of_later h.later)
    obtain ⟨y, hy, hkey'⟩ := h.keeps hr hroom' id x hx hid
    exact ⟨y, hy, hkey'.trans hkey⟩

/-- A step that changes entries in nothing but what may change, and gives what comes in a new id. -/
theorem Follows.of_evolves (hlater : Later r s)
    (h : r.WellFormed → s.HasRoom → ∃ f new, Evolves f new r s ∧
      (∀ e x, f e = some x → e.Becomes x) ∧ ∀ e, new = some e → e.id = ⟨r.nextId⟩) :
    Follows r s where
  later := hlater
  wellFormed hr hroom := by
    obtain ⟨f, new, hstep, -, -⟩ := h hr hroom
    exact hstep.wellFormed
  keeps hr hroom id e he hid := by
    obtain ⟨f, new, hstep, hbecomes, hnew⟩ := h hr hroom
    rw [hstep.live?, Option.or_eq_some_iff, Option.filter_eq_some_iff] at he
    obtain ⟨hin, hsame⟩ | ⟨-, hold⟩ := he
    · have hnext : (⟨r.nextId⟩ : WireId) = id := (hnew e hin).symm.trans (of_decide_eq_true hsame)
      exact absurd (hnext ▸ hid) (not_issued_nextId (hroom.of_later hlater))
    · obtain ⟨x, hx, hfate⟩ := Option.bind_eq_some_iff.mp hold
      exact ⟨x, hx, (hbecomes x e hfate).key.symm⟩

/-- **Every call is such a step.** -/
theorem follows_perform (op : Operation) : Follows r (op.perform r).2 :=
  .of_evolves (later_perform op) fun hr hroom => ⟨op.fate, op.newcomer? r,
    hr.evolves_perform op hroom, fun _ _ => Operation.becomes_of_fate, fun _ => id_of_newcomer?⟩

theorem follows_run (ops : List Operation) (r : Registry) : Follows r (r.run ops) := by
  induction ops generalizing r with
  | nil => rfl
  | cons op ops ih => exact (follows_perform op).trans (ih _)

/-! ## Assigned ids -/

/-- The id was issued, and stands for the entity if it stands for anything. -/
structure Assigned (r : Registry) (n : Naming) : Prop where
  issued : r.Issued n.2
  handle : ∀ e, r.live? n.2 = some e → e.handle = n.1

/-- **What an id is assigned to never changes.** -/
theorem Assigned.of_follows {n : Naming} (hn : r.Assigned n) (h : Follows r s)
    (hr : r.WellFormed) (hroom : s.HasRoom) : s.Assigned n where
  issued := hn.issued.of_later h.later
  handle e he := by
    obtain ⟨x, hx, hkey⟩ := h.keeps hr hroom n.2 e he hn.issued
    exact (congrArg EntityKey.handle hkey).symm.trans (hn.handle x hx)

theorem WellFormed.assigned_of_live? (h : r.WellFormed) {id : WireId} {e : Entry}
    (he : r.live? id = some e) : r.Assigned (e.handle, id) where
  issued := h.issued_of_tracked? (live?_eq_some_iff.mp he).1
  handle x hx := by rw [Option.some.inj (he.symm.trans hx)]

/-- A living entry meets its fate, whatever else comes in. -/
theorem WellFormed.live?_perform (h : r.WellFormed) (op : Operation)
    (hroom : (op.perform r).2.HasRoom) {id : WireId} {e : Entry} (he : r.live? id = some e) :
    (op.perform r).2.live? id = op.fate e := by
  have hnew : (op.newcomer? r).filter (·.id = id) = none := by
    rw [Option.filter_eq_none_iff]
    intro x hx hsame
    have hid : (⟨r.nextId⟩ : WireId) = id := (id_of_newcomer? hx).symm.trans (by simpa using hsame)
    exact not_issued_nextId (hroom.of_later (later_perform op))
      (hid ▸ (h.assigned_of_live? he).issued)
  rw [(h.evolves_perform op hroom).live?, hnew, Option.none_or, he, Option.bind_some]

/-- What every call of a run keeps of an entry, the run keeps. -/
theorem WellFormed.live_run (h : r.WellFormed) {P : Entry → Prop} {ops : List Operation}
    (hkeep : ∀ op ∈ ops, ∀ e, P e → ∃ x, op.fate e = some x ∧ P x) (hroom : (r.run ops).HasRoom)
    {id : WireId} {e : Entry} (he : r.live? id = some e) (hP : P e) :
    ∃ x, (r.run ops).live? id = some x ∧ P x := by
  induction ops generalizing r e with
  | nil => exact ⟨e, he, hP⟩
  | cons op ops ih =>
    have hroom' : (op.perform r).2.HasRoom := hroom.of_later (later_run ops _)
    obtain ⟨x, hx, hPx⟩ := hkeep op List.mem_cons_self e hP
    refine ih ((follows_perform op).wellFormed h hroom')
      (fun o ho => hkeep o (List.mem_cons_of_mem _ ho)) hroom ?_ hPx
    rw [h.live?_perform op hroom' he, hx]

/-- The id that a registration answers with stands for its entity. -/
theorem WellFormed.live_of_answer (h : r.WellFormed) {op : Operation} {handle : Handle}
    {kind : EntityKind} {id : WireId} (hsubject : op.subject? = some (handle, kind))
    (hid : (op.perform r).1.id? = some id) (hroom : (op.perform r).2.HasRoom) :
    ∃ e, (op.perform r).2.live? id = some e ∧ e.key = ⟨IdSpace.of kind, handle⟩ := by
  obtain ⟨hanswer, hholder⟩ | ⟨-, hnone⟩ := h.id?_of_subject hsubject hroom
  · obtain rfl : id = r.idFor ⟨IdSpace.of kind, handle⟩ :=
      Option.some.inj (hid.symm.trans hanswer)
    cases hname : r.holder? ⟨IdSpace.of kind, handle⟩ with
    | some e =>
      obtain ⟨hlive, hkey⟩ := h.holder?_eq_some_iff.mp hname
      obtain ⟨x, hx⟩ := op.exists_fate_of_registers (op.registers_of_subject hsubject) e
      rw [idFor, hname]
      exact ⟨x, (h.live?_perform op hroom hlive).trans hx,
        (Operation.becomes_of_fate hx).key.trans hkey⟩
    | none =>
      have hasked : op.refused = false := by
        rw [← Bool.not_eq_true]
        exact fun hrefused => hholder hrefused hname
      have hnew : op.newcomer? r = some (.fresh ⟨r.nextId⟩ handle kind op.tag?) := by
        rw [newcomer?_of_subject hsubject hasked, newcomer?, hname]
        rfl
      rw [idFor, hname, (h.evolves_perform op hroom).live?, hnew]
      exact ⟨.fresh ⟨r.nextId⟩ handle kind op.tag?, by simp [Entry.fresh], rfl⟩
  · rw [hid] at hnone
    simp at hnone

/-- The id that a registration answers with is assigned to its entity. -/
theorem WellFormed.assigned_perform (h : r.WellFormed) {op : Operation} {handle : Handle}
    {kind : EntityKind} {id : WireId} (hsubject : op.subject? = some (handle, kind))
    (hid : (op.perform r).1.id? = some id) (hroom : (op.perform r).2.HasRoom) :
    (op.perform r).2.Assigned (handle, id) := by
  obtain ⟨e, hlive, hkey⟩ := h.live_of_answer hsubject hid hroom
  have hhandle : e.handle = handle := congrArg EntityKey.handle hkey
  exact hhandle ▸ ((follows_perform op).wellFormed h hroom).assigned_of_live? hlive

/-! ## The ids in the order of their issue -/

/-- The ids that were issued, the first one first. -/
def issuedIds (r : Registry) : List WireId :=
  (List.range r.issued).map fun n => ⟨r.firstId + UInt64.ofNat n⟩

theorem toNat_nth (hroom : r.HasRoom) {n : Nat} (hn : n < r.issued) :
    (r.firstId + UInt64.ofNat n).toNat = r.firstId.toNat + n := by
  have hroom' : r.firstId.toNat + r.issued < 2 ^ 64 := hroom
  rw [UInt64.toNat_add, UInt64.toNat_ofNat']
  omega

theorem mem_issuedIds (hroom : r.HasRoom) {id : WireId} : id ∈ r.issuedIds ↔ r.Issued id := by
  rw [issuedIds, List.mem_map]
  constructor
  · rintro ⟨n, hn, rfl⟩
    have hlt := List.mem_range.mp hn
    unfold Issued
    rw [toNat_nth hroom hlt]
    omega
  · rintro ⟨hle, hlt⟩
    have hn : id.raw.toNat - r.firstId.toNat < r.issued := by omega
    refine ⟨_, List.mem_range.mpr hn, congrArg WireId.mk (UInt64.toNat_inj.mp ?_)⟩
    rw [toNat_nth hroom hn]
    omega

/-- **Every id is greater than those before it.** -/
theorem issuedIds_ascend (hroom : r.HasRoom) :
    r.issuedIds.Pairwise fun id id' => id.raw < id'.raw := by
  rw [issuedIds, List.pairwise_map]
  refine List.pairwise_lt_range.imp_of_mem fun {n m} hn hm hlt => ?_
  rw [UInt64.lt_iff_toNat_lt, toNat_nth hroom (List.mem_range.mp hn),
    toNat_nth hroom (List.mem_range.mp hm)]
  omega

/-- What comes to life is greater than all that was issued. -/
theorem Follows.lt_of_live? (h : Follows r s) (hr : r.WellFormed) (hroom : s.HasRoom)
    {id id' : WireId} {e : Entry} (hnone : r.live? id = none) (he : s.live? id = some e)
    (hid' : id' ∈ r.issuedIds) : id'.raw < id.raw := by
  have hissued : s.Issued id := ((h.wellFormed hr hroom).assigned_of_live? he).issued
  have hfirst : s.firstId = r.firstId := h.later.firstId
  have hnew : ¬ r.Issued id := by
    intro hold
    obtain ⟨x, hx, -⟩ := h.keeps hr hroom id e he hold
    rw [hnone] at hx
    simp at hx
  have hbefore := (mem_issuedIds (hroom.of_later h.later)).mp hid'
  rw [UInt64.lt_iff_toNat_lt]
  unfold Issued at hissued hnew hbefore
  rw [hfirst] at hissued
  omega

theorem WellFormed.null_not_mem_issuedIds (h : r.WellFormed) (hroom : r.HasRoom) :
    .null ∉ r.issuedIds := by
  rw [mem_issuedIds hroom]
  intro hissued
  have hzero : r.firstId.toNat = 0 := Nat.le_zero.mp hissued.1
  exact h.firstId_ne_zero (UInt64.toNat_inj.mp hzero)

theorem Later.issuedIds_prefix (h : Later r s) : r.issuedIds <+: s.issuedIds := by
  rw [issuedIds, issuedIds, h.firstId]
  obtain ⟨n, hn⟩ := Nat.exists_eq_add_of_le h.issued
  rw [hn, List.range_add, List.map_append]
  exact List.prefix_append _ _

end Registry
end DebugWire

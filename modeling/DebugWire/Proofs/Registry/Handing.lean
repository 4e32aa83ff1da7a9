import DebugWire.Proofs.Registry.Recycling

/-!
# Proofs/Registry/Handing — the calls that make a table, and the ids that they hand out

Whatever works on the table makes calls, one after the other.  `Handing p L r s named` says that
calls that pass `p` lead from `r` to `s`, and that `named` is what they hand out, behind `L`.  Such
calls compose (`Handing.trans`), and what they hand out is assigned (`Handing.names`).
-/

namespace DebugWire

namespace Operation

/-- The entity of a registration, with the id that is the answer. -/
def naming? (op : Operation) (answer : Outcome) : Option Naming :=
  op.subject?.bind fun subject => answer.id?.map (subject.1, ·)

theorem naming?_eq_some_iff {op : Operation} {answer : Outcome} {n : Naming} :
    op.naming? answer = some n ↔
      ∃ kind, op.subject? = some (n.1, kind) ∧ answer.id? = some n.2 := by
  obtain ⟨handle, id⟩ := n
  simp [naming?, Option.bind_eq_some_iff]

end Operation

namespace Registry

variable {r s t : Registry}

/-! ## What a run hands out -/

theorem history_append (r : Registry) (ops ops' : List Operation) :
    r.history (ops ++ ops') = r.history ops ++ (r.run ops).history ops' := by
  induction ops generalizing r with
  | nil => rfl
  | cons op ops ih => exact congrArg _ (ih _)

/-- The namings that some calls hand out. -/
def handed (r : Registry) (ops : List Operation) : List Naming :=
  (r.history ops).filterMap fun call => call.1.naming? call.2

/-- What a run hands out is handed out by its parts, in order. -/
theorem handed_append (r : Registry) (ops ops' : List Operation) :
    r.handed (ops ++ ops') = r.handed ops ++ (r.run ops).handed ops' := by
  rw [handed, history_append, List.filterMap_append]
  rfl

theorem handed_singleton (r : Registry) (op : Operation) :
    r.handed [op] = (op.naming? (op.perform r).1).toList := by
  simp only [handed, history, List.filterMap_cons, List.filterMap_nil]
  cases op.naming? (op.perform r).1 <;> rfl

theorem handed_cons (r : Registry) (op : Operation) (ops : List Operation) :
    r.handed (op :: ops) = (op.naming? (op.perform r).1).toList ++ (op.perform r).2.handed ops := by
  rw [← handed_singleton]
  exact handed_append r [op] ops

/-- The namings of a list are right. -/
def Names (r : Registry) (L : List Naming) : Prop := ∀ n ∈ L, r.Assigned n

theorem Names.append {L L' : List Naming} (h : r.Names L) (h' : r.Names L') : r.Names (L ++ L') :=
  List.forall_mem_append.mpr ⟨h, h'⟩

/-- **What calls hand out is assigned so.** -/
theorem WellFormed.names_handed (h : r.WellFormed) (ops : List Operation)
    (hroom : (r.run ops).HasRoom) : (r.run ops).Names (r.handed ops) := by
  induction ops generalizing r with
  | nil => exact nofun
  | cons op ops ih =>
    have hroom' : (op.perform r).2.HasRoom := hroom.of_later (later_run ops _)
    have hwf := (follows_perform op).wellFormed h hroom'
    rw [handed_cons]
    refine Names.append (fun n hn => ?_) (ih hwf hroom)
    obtain ⟨kind, hsubject, hid⟩ := Operation.naming?_eq_some_iff.mp (Option.mem_toList.mp hn)
    exact (h.assigned_perform hsubject hid hroom').of_follows (follows_run ops _) hwf hroom

/-- What registrations hand out lives in the end, as what was registered. -/
theorem WellFormed.live_of_handed (h : r.WellFormed) {ops : List Operation}
    (hregisters : ∀ op ∈ ops, op.registers) (hroom : (r.run ops).HasRoom) {n : Naming}
    (hn : n ∈ r.handed ops) : ∃ op ∈ ops, ∃ kind, op.subject? = some (n.1, kind) ∧
      ∃ e, (r.run ops).live? n.2 = some e ∧ e.key = ⟨IdSpace.of kind, n.1⟩ := by
  induction ops generalizing r with
  | nil => exact absurd hn List.not_mem_nil
  | cons op ops ih =>
    have hroom' : (op.perform r).2.HasRoom := hroom.of_later (later_run ops _)
    have hwf := (follows_perform op).wellFormed h hroom'
    obtain ⟨hregister, hrest⟩ := List.forall_mem_cons.mp hregisters
    rw [handed_cons, List.mem_append, Option.mem_toList] at hn
    obtain hn | hn := hn
    · obtain ⟨kind, hsubject, hid⟩ := Operation.naming?_eq_some_iff.mp hn
      obtain ⟨e, hlive, hkey⟩ := h.live_of_answer hsubject hid hroom'
      refine ⟨op, List.mem_cons_self, kind, hsubject, ?_⟩
      refine hwf.live_run (P := fun x => x.key = ⟨IdSpace.of kind, n.1⟩)
        (fun o ho x hname => ?_) hroom hlive hkey
      obtain ⟨y, hy⟩ := o.exists_fate_of_registers (hrest o ho) x
      exact ⟨y, hy, (Operation.becomes_of_fate hy).key.trans hname⟩
    · obtain ⟨o, ho, hfound⟩ := ih hwf hrest hroom hn
      exact ⟨o, List.mem_cons_of_mem _ ho, hfound⟩

/-! ## From table to table -/

/-- Calls that pass `p` lead from `r` to `s`, and hand out what `named` has behind `L`. -/
def Handing (p : Operation → Bool) (L : List Naming) (r s : Registry) (named : List Naming) :
    Prop :=
  ∃ ops, (∀ op ∈ ops, p op) ∧ s = r.run ops ∧ named = L ++ r.handed ops

namespace Handing

variable {p q : Operation → Bool} {L L' L'' : List Naming}

theorem refl (p : Operation → Bool) (L : List Naming) (r : Registry) : Handing p L r r L :=
  ⟨[], nofun, rfl, (List.append_nil L).symm⟩

/-- **Some calls, and then others.** -/
theorem trans (h : Handing p L r s L') (h' : Handing p L' s t L'') : Handing p L r t L'' := by
  obtain ⟨ops, hops, rfl, rfl⟩ := h
  obtain ⟨ops', hops', rfl, rfl⟩ := h'
  refine ⟨ops ++ ops', List.forall_mem_append.mpr ⟨hops, hops'⟩, (run_append r ops ops').symm, ?_⟩
  rw [handed_append, List.append_assoc]

theorem mono (h : Handing p L r s L') (hpq : ∀ op, p op → q op) : Handing q L r s L' := by
  obtain ⟨ops, hops, hs, hnamed⟩ := h
  exact ⟨ops, fun op hop => hpq op (hops op hop), hs, hnamed⟩

/-- One call. -/
theorem perform {op : Operation} (hop : p op) (L : List Naming) (r : Registry) :
    Handing p L r (op.perform r).2 (L ++ (op.naming? (op.perform r).1).toList) :=
  ⟨[op], List.forall_mem_singleton.mpr hop, rfl, congrArg (L ++ ·) (handed_singleton r op).symm⟩

/-- A table that calls lead to is one that a run leads to. -/
theorem follows (h : Handing p L r s L') : Follows r s := by
  obtain ⟨ops, -, rfl, -⟩ := h
  exact follows_run ops r

/-- What was handed out is assigned. -/
theorem names (h : Handing p [] r s L) (hr : r.WellFormed) (hroom : s.HasRoom) : s.Names L := by
  obtain ⟨ops, -, rfl, rfl⟩ := h
  exact hr.names_handed ops hroom

/-- What registrations of anything but objects hand out stands for what was registered. -/
theorem live_of_others (h : Handing Operation.registersOther [] r s L) (hr : r.WellFormed)
    (hroom : s.HasRoom) {n : Naming} (hn : n ∈ L) :
    ∃ e, s.live? n.2 = some e ∧ e.handle = n.1 ∧ ¬ e.kind.isObject := by
  obtain ⟨ops, hops, rfl, rfl⟩ := h
  have hother : ∀ op ∈ ops, op.registers ∧ !op.registersObject := fun op hop =>
    Bool.and_eq_true_iff.mp (hops op hop)
  obtain ⟨op, hop, kind, hsubject, e, he, hkey⟩ :=
    hr.live_of_handed (fun op hop => (hother op hop).1) hroom hn
  have hobject : ¬ kind.isObject := by
    have hnone := (hother op hop).2
    rw [Operation.registersObject, hsubject] at hnone
    simpa using hnone
  have hsame := EntityKind.isObject_eq_of_space (congrArg EntityKey.space hkey)
  exact ⟨e, he, congrArg EntityKey.handle hkey, hsame ▸ hobject⟩

end Handing

end Registry
end DebugWire

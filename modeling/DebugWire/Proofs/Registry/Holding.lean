import DebugWire.Proofs.Registry.Recycling

/-!
# Proofs/Registry/Holding — what holds an object

An object is held by references and by pins.  Whoever takes the last reference looks at the pins,
but who removes the last pin does not look at the references: this is the one call that leaves an
object that nothing holds (`Operation.unheld_of_fate`).  A run without it keeps every living object
held, and no other run does (`held_iff_no_last_pin`).
-/

namespace DebugWire

namespace Entry

/-- An object that nothing holds. -/
def Unheld (e : Entry) : Prop := e.kind.isObject ∧ e.references = 0 ∧ e.pins = 0

/-- An object that is there, and that a single pin holds. -/
def HangsOnPin (e : Entry) : Prop :=
  e.kind.isObject ∧ e.references = 0 ∧ e.pins = 1 ∧ e.freed = false

instance (e : Entry) : Decidable e.Unheld := inferInstanceAs (Decidable (_ ∧ _ ∧ _))

end Entry

theorem countUp_ne_zero (n : Nat) : countUp n ≠ 0 := by
  simp [countUp, counterMax]

theorem Entry.not_unheld_of_counted {e x : Entry} (h : x.references = countUp e.references) :
    ¬ x.Unheld := fun hx => countUp_ne_zero _ (h.symm.trans hx.2.1)

/-! ## One call -/

namespace Operation

/-- A registered entry is held. -/
theorem unheld_of_registered {c : Prop} [Decidable c] {e x y : Entry}
    (h : some (if c then y else e) = some x) (hy : y.references = countUp e.references)
    (hx : x.Unheld) : e.Unheld := by
  obtain rfl := Option.some.inj h
  split at hx
  · exact absurd hx (Entry.not_unheld_of_counted hy)
  · exact hx

/-- **Only the last pin leaves an object that nothing holds.** -/
theorem unheld_of_fate {op : Operation} {e x : Entry} (h : op.fate e = some x) (hx : x.Unheld) :
    e.Unheld ∨ op = .enableCollection e.id ∧ e.HangsOnPin := by
  cases op with
  | register handle kind => exact Or.inl (unheld_of_registered h rfl hx)
  | registerOptional handle kind =>
    cases handle with
    | none => exact Or.inl (Option.some.inj h ▸ hx)
    | some handle => exact Or.inl (unheld_of_registered h rfl hx)
  | registerType handle facts =>
    obtain rfl := Option.some.inj h
    split at hx
    · split at hx
      · exact absurd hx fun hx => countUp_ne_zero _ hx.2.1
      · exact absurd hx fun hx => countUp_ne_zero _ hx.2.1
    · exact Or.inl hx
  | registerTagged handle tag => exact Or.inl (unheld_of_registered h rfl hx)
  | toWire value =>
    cases value with
    | primitive p => exact Or.inl (Option.some.inj h ▸ hx)
    | reference kind handle =>
      cases handle with
      | none => exact Or.inl (Option.some.inj h ▸ hx)
      | some handle => exact Or.inl (unheld_of_registered h rfl hx)
  | dispose id =>
    simp only [fate] at h
    split at h
    · cases h
    · exact Or.inl (Option.some.inj h ▸ hx)
  | disposeObjects id count =>
    simp only [fate, Entry.returned] at h
    split at h
    · split at h
      · cases h
      · next hstays =>
        obtain rfl := Option.some.inj h
        exact absurd ⟨hx.2.1, hx.2.2⟩ hstays
    · exact Or.inl (Option.some.inj h ▸ hx)
  | entityFreed handle =>
    simp only [fate, Entry.bereaved] at h
    split at h
    · split at h
      · next hpinned =>
        obtain rfl := Option.some.inj h
        exact absurd hx.2.2 (Nat.ne_of_gt hpinned)
      · cases h
    · exact Or.inl (Option.some.inj h ▸ hx)
  | disableCollection id =>
    obtain rfl := Option.some.inj h
    split at hx
    · exact absurd hx.2.2 (countUp_ne_zero _)
    · exact Or.inl hx
  | enableCollection id =>
    simp only [fate, Entry.unpinned] at h
    split at h
    · next hobject =>
      split at h
      · cases h
      · next hstays =>
        obtain rfl := Option.some.inj h
        obtain ⟨-, hreferences, hpins⟩ := hx
        have hpins' : e.pins - 1 = 0 := hpins
        -- with a second pin it would be held; with none it was not held before
        obtain hnone | hone : e.pins = 0 ∨ e.pins = 1 := by omega
        · exact Or.inl ⟨hobject.2, hreferences, hnone⟩
        · refine Or.inr ⟨hobject.1 ▸ rfl, hobject.2, hreferences, hone, ?_⟩
          exact Bool.eq_false_iff.mpr fun hfreed => hstays ⟨hpins', hfreed⟩
    · exact Or.inl (Option.some.inj h ▸ hx)
  | invalidateFrames =>
    simp only [fate] at h
    split at h
    · cases h
    · exact Or.inl (Option.some.inj h ▸ hx)
  | disposeAll => cases h
  | _ => exact Or.inl (Option.some.inj h ▸ hx)

/-- The last pin is removed, and the object stays. -/
theorem fate_of_hangsOnPin {e : Entry} (h : e.HangsOnPin) :
    (enableCollection e.id).fate e = some { e with pins := 0 } := by
  obtain ⟨hobject, -, hpins, hfreed⟩ := h
  simp [fate, Entry.unpinned, hobject, hpins, hfreed]

end Operation

namespace Registry

variable {r : Registry}

/-- Every living object is held. -/
def Held (r : Registry) : Prop := ∀ id e, r.live? id = some e → ¬ e.Unheld

/-- The id stands for an object that a single pin holds. -/
def HangsOnPin (r : Registry) (id : WireId) : Prop := ∃ e, r.live? id = some e ∧ e.HangsOnPin

theorem held_new (firstId : UInt64) (threshold : Nat) : (new firstId threshold).Held := by
  intro id e he
  exact absurd he (by simp [live?, tracked?, new])

/-- **A call keeps every object held, unless it removes the pin that holds one.** -/
theorem WellFormed.held_perform_iff (h : r.WellFormed) (hheld : r.Held) (op : Operation)
    (hroom : (op.perform r).2.HasRoom) :
    (op.perform r).2.Held ↔ ∀ id, op = .enableCollection id → ¬ r.HangsOnPin id := by
  constructor
  · rintro hafter id rfl ⟨e, he, hpin⟩
    obtain rfl := h.id_of_live? he
    have hlive := (h.live?_perform _ hroom he).trans (Operation.fate_of_hangsOnPin hpin)
    exact hafter _ _ hlive ⟨hpin.1, hpin.2.1, rfl⟩
  · intro hpins id x hx hunheld
    rw [(h.evolves_perform op hroom).live?, Option.or_eq_some_iff, Option.filter_eq_some_iff] at hx
    obtain ⟨hnew, -⟩ | ⟨-, hold⟩ := hx
    · obtain ⟨handle, kind, -, rfl⟩ := exists_subject_of_newcomer? hnew
      exact absurd hunheld.2.1 Nat.one_ne_zero
    · obtain ⟨e, he, hfate⟩ := Option.bind_eq_some_iff.mp hold
      obtain hbefore | ⟨rfl, hpin⟩ := Operation.unheld_of_fate hfate hunheld
      · exact hheld id e he hbefore
      · exact hpins _ rfl ⟨e, by rw [h.id_of_live? he, he], hpin⟩

/-! ## Along a run -/

theorem WellFormed.held_run_iff (h : r.WellFormed) (hheld : r.Held) (ops : List Operation)
    (hroom : (r.run ops).HasRoom) :
    (∀ n, (r.run (ops.take n)).Held) ↔
      ∀ n id, ops[n]? = some (.enableCollection id) → ¬ (r.run (ops.take n)).HangsOnPin id := by
  have hstep {n : Nat} {op : Operation} (hop : ops[n]? = some op)
      (hbefore : (r.run (ops.take n)).Held) :=
    (h.run (ops.take n) (hasRoom_take hroom n)).held_perform_iff hbefore op
      (run_take_succ hop ▸ hasRoom_take hroom (n + 1))
  constructor
  · intro hall n id hop
    have hafter := hall (n + 1)
    rw [run_take_succ hop] at hafter
    exact (hstep hop (hall n)).mp hafter id rfl
  · intro hpins n
    induction n with
    | zero => exact hheld
    | succ n ih =>
      cases hop : ops[n]? with
      | none =>
        rw [List.take_add_one, hop]
        simpa using ih
      | some op =>
        rw [run_take_succ hop]
        exact (hstep hop ih).mpr fun id hid => hpins n id (hid ▸ hop)

/-- **Every living object is held, at every moment of a run, unless its last pin is removed after
its last reference was taken back.** -/
theorem held_iff_no_last_pin (firstId : UInt64) (threshold : Nat) (ops : List Operation)
    (hroom : ((new firstId threshold).run ops).HasRoom) :
    (∀ n, ((new firstId threshold).run (ops.take n)).Held) ↔
      ∀ n id, ops[n]? = some (.enableCollection id) →
        ¬ ((new firstId threshold).run (ops.take n)).HangsOnPin id :=
  (WellFormed.new firstId threshold).held_run_iff (held_new firstId threshold) ops hroom

/-- The pin goes first, and the last reference takes the object along. -/
theorem held_unpinned_first :
    ((new 1 1).run [.register ⟨10⟩ (.object .plain), .disableCollection ⟨1⟩,
      .enableCollection ⟨1⟩, .disposeObjects ⟨1⟩ 1]).live? ⟨1⟩ = none ∧
    ∀ n, ((new 1 1).run ([.register ⟨10⟩ (.object .plain), .disableCollection ⟨1⟩,
      .enableCollection ⟨1⟩, .disposeObjects ⟨1⟩ 1].take n)).Held := by
  refine ⟨by decide, (held_iff_no_last_pin 1 1 _ (by decide)).mpr fun n id hop => ?_⟩
  match n with
  | 2 =>
    obtain rfl : ⟨1⟩ = id := by simpa using hop
    rintro ⟨e, he, -, hreferences, -⟩
    have hlive : ((new 1 1).run [.register ⟨10⟩ (.object .plain),
        .disableCollection ⟨1⟩]).live? ⟨1⟩ =
          some ⟨⟨1⟩, ⟨10⟩, .object .plain, none, 1, 1, false, false⟩ := by
      decide
    rw [← Option.some.inj (hlive.symm.trans he)] at hreferences
    exact absurd hreferences Nat.one_ne_zero
  | 0 | 1 | 3 | n + 4 => exact absurd hop (by simp)

/-- The last reference goes first, and the pin leaves an object behind that nothing holds. -/
theorem unheld_after_last_pin :
    ∃ e, ((new 1 1).run [.register ⟨10⟩ (.object .plain), .disableCollection ⟨1⟩,
      .disposeObjects ⟨1⟩ 1, .enableCollection ⟨1⟩]).live? ⟨1⟩ = some e ∧ e.Unheld :=
  ⟨_, rfl, by decide⟩

end Registry
end DebugWire

import DebugWire.Proofs.Registry.Invariant

/-!
# Proofs/Registry/Effect — what becomes of the ids

In a well-formed table each part of an operation changes what one id stands for: `tracked?_update`,
`tracked?_markDead`, `tracked?_release`, `tracked?_enter`.  An observer sees two things only, the
living entry of an id (`live?`) and whether an id ever stood for something that is no object
(`isOther`).
-/

namespace DebugWire.Registry

variable {r : Registry}

/-- Whether an id stands for something that is no object, or did before it was released. -/
def isOther (r : Registry) (id : WireId) : Bool :=
  r.retired.contains id.raw.toNat || (r.tracked? id).any (!·.kind.isObject)

/-! ## Looking up -/

theorem WellFormed.byId_of_entryAt? (h : r.WellFormed) {key : SlotKey} {e : Entry}
    (he : r.entryAt? key = some e) : r.byId[e.id]? = some key :=
  (h.byId e.id key).mpr ⟨e, he, rfl⟩

/-- An id is tracked exactly if some key finds its entry. -/
theorem WellFormed.tracked?_eq_some_iff (h : r.WellFormed) {id : WireId} {e : Entry} :
    r.tracked? id = some e ↔ ∃ key, r.entryAt? key = some e ∧ e.id = id := by
  simp only [tracked?, Option.bind_eq_bind, Option.bind_eq_some_iff]
  constructor
  · rintro ⟨key, hid, he⟩
    obtain ⟨x, hx, rfl⟩ := (h.byId id key).mp hid
    obtain rfl : x = e := Option.some.inj (hx.symm.trans he)
    exact ⟨key, he, rfl⟩
  · rintro ⟨key, he, rfl⟩
    exact ⟨key, h.byId_of_entryAt? he, he⟩

/-- Whatever a key leads to is tracked by its id. -/
theorem WellFormed.tracked?_of_entryAt? (h : r.WellFormed) {key : SlotKey} {e : Entry}
    (he : r.entryAt? key = some e) : r.tracked? e.id = some e :=
  h.tracked?_eq_some_iff.mpr ⟨key, he, rfl⟩

theorem WellFormed.id_of_tracked? (h : r.WellFormed) {id : WireId} {e : Entry}
    (he : r.tracked? id = some e) : e.id = id := by
  obtain ⟨-, -, hid⟩ := h.tracked?_eq_some_iff.mp he
  exact hid

/-- The key and the entry of a tracked id. -/
theorem WellFormed.exists_key (h : r.WellFormed) {id : WireId} {e : Entry}
    (he : r.tracked? id = some e) : ∃ key, r.byId[id]? = some key ∧ r.entryAt? key = some e := by
  obtain ⟨key, hkey, rfl⟩ := h.tracked?_eq_some_iff.mp he
  exact ⟨key, h.byId_of_entryAt? hkey, hkey⟩

theorem live?_eq_some_iff {id : WireId} {e : Entry} :
    r.live? id = some e ↔ r.tracked? id = some e ∧ e.dead = false := by
  simp [live?, Option.filter_eq_some_iff]

/-- A living entry resolves as whatever accepts its kind. -/
theorem resolve_of_live? {id : WireId} {expected : EntityKind} {e : Entry}
    (he : r.live? id = some e) (haccepts : expected.accepts e.kind) :
    r.resolve id expected = .ok e.handle := by
  rw [resolve, he]
  exact if_pos haccepts

/-- What resolves has an entry of the kind. -/
theorem exists_of_resolve {id : WireId} {expected : EntityKind} {handle : Handle}
    (h : r.resolve id expected = .ok handle) :
    ∃ e, r.live? id = some e ∧ expected.accepts e.kind ∧ e.handle = handle := by
  unfold resolve at h
  split at h
  · next e he =>
    split at h
    · next haccepts => exact ⟨e, he, haccepts, Except.ok.inj h⟩
    · exact absurd h nofun
  · exact absurd h nofun

theorem WellFormed.id_of_live? (h : r.WellFormed) {id : WireId} {e : Entry}
    (he : r.live? id = some e) : e.id = id :=
  h.id_of_tracked? (live?_eq_some_iff.mp he).1

/-- A tracked id was issued. -/
theorem WellFormed.issued_of_tracked? (h : r.WellFormed) {id : WireId} {e : Entry}
    (he : r.tracked? id = some e) : r.Issued id := by
  obtain ⟨key, hkey, rfl⟩ := h.tracked?_eq_some_iff.mp he
  exact h.issued key e hkey

/-- A name has the entry that lives under it. -/
theorem WellFormed.named?_eq_some_iff (h : r.WellFormed) {name : EntityKey} {key : SlotKey}
    {e : Entry} : r.named? name = some (key, e) ↔
      r.entryAt? key = some e ∧ e.dead = false ∧ e.key = name := by
  simp only [named?, Option.bind_eq_bind, Option.bind_eq_some_iff]
  constructor
  · rintro ⟨k, hk, x, hx, hsome⟩
    obtain ⟨y, hy, halive, hname⟩ := (h.byHandle name k).mp hk
    obtain rfl : x = y := Option.some.inj (hx.symm.trans hy)
    rw [halive, if_neg Bool.false_ne_true, Option.some.injEq, Prod.mk.injEq] at hsome
    obtain ⟨rfl, rfl⟩ := hsome
    exact ⟨hx, halive, hname⟩
  · rintro ⟨he, halive, hname⟩
    exact ⟨key, (h.byHandle name key).mpr ⟨e, he, halive, hname⟩, e, he, by simp [halive]⟩

theorem WellFormed.live?_of_named? (h : r.WellFormed) {name : EntityKey} {key : SlotKey}
    {e : Entry} (hn : r.named? name = some (key, e)) : r.live? e.id = some e ∧ e.key = name := by
  obtain ⟨he, halive, hname⟩ := h.named?_eq_some_iff.mp hn
  exact ⟨live?_eq_some_iff.mpr ⟨h.tracked?_of_entryAt? he, halive⟩, hname⟩

/-- Whatever lives is found under its name. -/
theorem WellFormed.named?_of_live? (h : r.WellFormed) {id : WireId} {e : Entry}
    (he : r.live? id = some e) : ∃ key, r.named? e.key = some (key, e) := by
  obtain ⟨htracked, halive⟩ := live?_eq_some_iff.mp he
  obtain ⟨key, hkey, -⟩ := h.tracked?_eq_some_iff.mp htracked
  exact ⟨key, h.named?_eq_some_iff.mpr ⟨hkey, halive, rfl⟩⟩

/-- **At most one id of a name lives.** -/
theorem WellFormed.id_eq_of_key_eq (h : r.WellFormed) {id id' : WireId} {e e' : Entry}
    (he : r.live? id = some e) (he' : r.live? id' = some e') (hkey : e.key = e'.key) :
    id = id' := by
  obtain ⟨key, hn⟩ := h.named?_of_live? he
  obtain ⟨key', hn'⟩ := h.named?_of_live? he'
  rw [hkey, hn', Option.some.injEq, Prod.mk.injEq] at hn
  rw [← h.id_of_live? he, ← h.id_of_live? he', hn.2]

/-- The names on record are those of the living. -/
theorem WellFormed.named?_eq_none_iff (h : r.WellFormed) {name : EntityKey} :
    r.named? name = none ↔ ∀ id e, r.live? id = some e → e.key ≠ name := by
  constructor
  · rintro hnone id e he rfl
    obtain ⟨key, hn⟩ := h.named?_of_live? he
    exact absurd (hnone.symm.trans hn) nofun
  · intro hall
    rw [Option.eq_none_iff_forall_ne_some]
    rintro ⟨key, e⟩ hn
    obtain ⟨hlive, hname⟩ := h.live?_of_named? hn
    exact hall e.id e hlive hname

/-! ## Parts of an operation -/

/-- One key finds another entry: one id stands for another entry. -/
theorem WellFormed.tracked?_of_point (h : r.WellFormed) {s : Registry} (hmap : s.byId = r.byId)
    {key : SlotKey} {e w : Entry} (he : r.entryAt? key = some e)
    (hpoint : ∀ k, s.entryAt? k = if k = key then some w else r.entryAt? k) (id : WireId) :
    s.tracked? id = if id = e.id then some w else r.tracked? id := by
  rw [tracked?, tracked?, hmap]
  by_cases hid : id = e.id
  · subst hid
    simp [h.byId_of_entryAt? he, hpoint]
  · rw [if_neg hid]
    cases hk : r.byId[id]? with
    | none => rfl
    | some k =>
      have hne : k ≠ key := by
        rintro rfl
        obtain ⟨x, hx, rfl⟩ := (h.byId id k).mp hk
        exact hid (congrArg Entry.id (Option.some.inj (hx.symm.trans he)))
      simp [hpoint, hne]

theorem WellFormed.tracked?_update (h : r.WellFormed) {key : SlotKey} {e : Entry}
    (he : r.entryAt? key = some e) (w : Entry) (id : WireId) :
    (r.update key w).tracked? id = if id = e.id then some w else r.tracked? id :=
  h.tracked?_of_point (s := r.update key w) rfl he (entryAt?_update he w) id

/-- A dead entry stays tracked until it is swept. -/
theorem WellFormed.tracked?_markDead (h : r.WellFormed) {key : SlotKey} {e : Entry}
    (he : r.entryAt? key = some e) (halive : e.dead = false) (id : WireId) :
    (r.markDead key).tracked? id =
      if id = e.id then some { e with dead := true } else r.tracked? id :=
  h.tracked?_of_point (by rw [markDead_of_alive he halive]; rfl) he (entryAt?_markDead he halive)
    id

/-- **Releasing an id touches no other id**, though its slot is used again. -/
theorem WellFormed.tracked?_release (h : r.WellFormed) (id i : WireId) :
    (r.release id).tracked? i = if i = id then none else r.tracked? i := by
  cases hid : r.byId[id]? with
  | none =>
    have hsame : r.release id = r := by simp [Registry.release, hid]
    rw [hsame]
    by_cases hi : i = id
    · subst hi
      simp [tracked?, hid]
    · rw [if_neg hi]
  | some key =>
    obtain ⟨e, he, rfl⟩ := (h.byId id key).mp hid
    rw [Option.ext_iff]
    intro x
    rw [(h.release e.id).tracked?_eq_some_iff]
    simp only [entryAt?_release hid he]
    by_cases hi : i = e.id
    · subst hi
      rw [if_pos rfl]
      refine iff_of_false ?_ (by simp)
      rintro ⟨k, hk, hx⟩
      split at hk
      · simp at hk
      · next hne =>
        have hkey : r.byId[e.id]? = some k := hx ▸ h.byId_of_entryAt? hk
        exact hne (Option.some.inj (hkey.symm.trans hid))
    · rw [if_neg hi, h.tracked?_eq_some_iff]
      constructor
      · rintro ⟨k, hk, hx⟩
        split at hk
        · simp at hk
        · exact ⟨k, hk, hx⟩
      · rintro ⟨k, hk, rfl⟩
        refine ⟨k, ?_, rfl⟩
        rw [if_neg, hk]
        rintro rfl
        exact hi (congrArg Entry.id (Option.some.inj (hk.symm.trans he)))

/-- What lives under no name is found by no key. -/
theorem WellFormed.enter_of_live? (h : r.WellFormed) (hroom : r.HasRoom) {e : Entry}
    (hid : e.id = ⟨r.nextId⟩) (halive : e.dead = false)
    (hnew : ∀ i x, r.live? i = some x → x.key ≠ e.key) : (r.enter e).WellFormed :=
  h.enter hroom hid halive fun _ x hx hx' =>
    hnew x.id x (live?_eq_some_iff.mpr ⟨h.tracked?_of_entryAt? hx, hx'⟩)

/-- A new entry is found by its id, and all others as before. -/
theorem WellFormed.tracked?_enter (h : r.WellFormed) (hroom : r.HasRoom) {e : Entry}
    (hid : e.id = ⟨r.nextId⟩) (halive : e.dead = false)
    (hnew : ∀ i x, r.live? i = some x → x.key ≠ e.key) (i : WireId) :
    (r.enter e).tracked? i = if i = e.id then some e else r.tracked? i := by
  have hfound : ∀ k x, (r.enter e).entryAt? k = some x ↔
      (k = (r.occupy e).1 ∧ e = x) ∨ r.entryAt? k = some x := fun k x => by
    simpa using exists_entryAt?_enter h e (· = x) k
  rw [Option.ext_iff]
  intro x
  simp only [(h.enter_of_live? hroom hid halive hnew).tracked?_eq_some_iff, hfound]
  by_cases hi : i = e.id
  · subst hi
    rw [if_pos rfl, Option.some.injEq]
    constructor
    · rintro ⟨k, ⟨-, hx⟩ | hx, hsame⟩
      · exact hx
      · exact absurd (hid ▸ hsame ▸ h.issued k x hx) (not_issued_nextId hroom)
    · rintro rfl
      exact ⟨_, Or.inl ⟨rfl, rfl⟩, rfl⟩
  · rw [if_neg hi, h.tracked?_eq_some_iff]
    constructor
    · rintro ⟨k, ⟨-, rfl⟩ | hx, hsame⟩
      · exact absurd hsame.symm hi
      · exact ⟨k, hx, hsame⟩
    · rintro ⟨k, hx, hsame⟩
      exact ⟨k, Or.inr hx, hsame⟩

end DebugWire.Registry

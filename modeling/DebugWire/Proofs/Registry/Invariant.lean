import DebugWire.Proofs.Registry.Arena
import DebugWire.Proofs.Registry.Retired

/-!
# Proofs/Registry/Invariant — the table agrees with itself

Slots, free list, the two maps and the count of dead entries all say which entries there are.
`WellFormed` is that they say the same.  Each part of an operation keeps it: `WellFormed.update`,
`WellFormed.markDead`, `WellFormed.release`, `WellFormed.enter`.  Only the last needs room in the
counter (`HasRoom`), lest a number come round again.
-/

namespace DebugWire

/-- Whether a slot holds a dead entry. -/
def Slot.isDead (s : Slot) : Bool := s.entry.any (·.dead)

namespace Registry

variable {r : Registry}

/-- Whether an id came from the counter. -/
def Issued (r : Registry) (id : WireId) : Prop :=
  r.firstId.toNat ≤ id.raw.toNat ∧ id.raw.toNat < r.firstId.toNat + r.issued

/-- The counter did not start over: fewer than `2 ^ 64 - firstId` ids were issued. -/
def HasRoom (r : Registry) : Prop := r.firstId.toNat + r.issued < UInt64.size

instance (r : Registry) : Decidable r.HasRoom := inferInstanceAs (Decidable (_ < _))

/-- The table agrees with itself. -/
structure WellFormed (r : Registry) : Prop where
  /-- Zero is no id. -/
  firstId_ne_zero : r.firstId ≠ 0
  /-- An id stands for the one key that finds its entry. -/
  byId : ∀ id key, r.byId[id]? = some key ↔ ∃ e, r.entryAt? key = some e ∧ e.id = id
  /-- A name stands for the one key that finds a living entry of that name. -/
  byHandle : ∀ name key, r.byHandle[name]? = some key ↔
    ∃ e, r.entryAt? key = some e ∧ e.dead = false ∧ e.key = name
  /-- What is free is empty, and what is empty is free. -/
  free : ∀ i, i ∈ r.free ↔ ∃ slot, r.slots[i]? = some slot ∧ slot.entry = none
  nodup_free : r.free.Nodup
  /-- The dead are counted. -/
  dead : r.dead = r.slots.countP Slot.isDead
  /-- Every entry has an id from the counter. -/
  issued : ∀ key e, r.entryAt? key = some e → r.Issued e.id
  /-- The runs of retired ids are not empty. -/
  retired : r.retired.Proper

/-! ## The start -/

theorem firstId_new_ne_zero (firstId : UInt64) : max firstId 1 ≠ 0 := by
  change (if firstId ≤ 1 then 1 else firstId) ≠ 0
  split
  · decide
  · next h =>
    rintro rfl
    exact h (by decide)

theorem WellFormed.new (firstId : UInt64) (threshold : Nat) :
    (Registry.new firstId threshold).WellFormed where
  firstId_ne_zero := firstId_new_ne_zero firstId
  byId id key := by simp [Registry.new, entryAt?]
  byHandle name key := by simp [Registry.new, entryAt?]
  free i := by simp [Registry.new]
  nodup_free := List.nodup_nil
  dead := rfl
  issued key e he := absurd he nofun
  retired := Retired.proper_empty

/-! ## Changing an entry -/

/-- An entry that is changed in nothing that `P` looks at. -/
theorem exists_entryAt?_update {key : SlotKey} {e w : Entry} (he : r.entryAt? key = some e)
    (P : Entry → Prop) (hP : P w ↔ P e) (k : SlotKey) :
    (∃ x, (r.update key w).entryAt? k = some x ∧ P x) ↔
      ∃ x, r.entryAt? k = some x ∧ P x := by
  rw [entryAt?_update he]
  by_cases hk : k = key
  · subst hk
    simp only [if_true, he, Option.some.injEq, exists_eq_left', hP]
  · rw [if_neg hk]

/-- What fills a slot anew leaves it as full as it was. -/
theorem exists_empty_update {key : SlotKey} {e : Entry} (he : r.entryAt? key = some e)
    (w : Entry) (i : Nat) :
    (∃ slot, (r.update key w).slots[i]? = some slot ∧ slot.entry = none) ↔
      ∃ slot, r.slots[i]? = some slot ∧ slot.entry = none := by
  obtain ⟨slot, hslot, -, hentry⟩ := entryAt?_eq_some_iff.mp he
  rw [update, exists_empty_write _ hslot]
  by_cases hi : i = key.index
  · subst hi
    simp only [if_true, hslot, Option.some.injEq, exists_eq_left', hentry, reduceCtorEq]
  · rw [if_neg hi]

theorem countP_isDead_update {key : SlotKey} {e : Entry} (he : r.entryAt? key = some e)
    (w : Entry) :
    (r.update key w).slots.countP Slot.isDead + (if e.dead then 1 else 0) =
      r.slots.countP Slot.isDead + (if w.dead then 1 else 0) := by
  obtain ⟨slot, hslot, -, hentry⟩ := entryAt?_eq_some_iff.mp he
  have h := countP_setIfInBounds ⟨key.generation, some w⟩ Slot.isDead hslot
  rwa [Slot.isDead, Slot.isDead, hentry] at h

theorem WellFormed.issued_of_update (h : r.WellFormed) {key : SlotKey} {e w : Entry}
    (he : r.entryAt? key = some e) (hid : w.id = e.id) (k : SlotKey) (x : Entry)
    (hx : (r.update key w).entryAt? k = some x) : r.Issued x.id := by
  rw [entryAt?_update he] at hx
  split at hx
  · obtain rfl : w = x := Option.some.inj hx
    rw [hid]
    exact h.issued key e he
  · exact h.issued k x hx

/-- **An entry may change in all but its id, its name and its death.** -/
theorem WellFormed.update (h : r.WellFormed) {key : SlotKey} {e w : Entry}
    (he : r.entryAt? key = some e) (hid : w.id = e.id) (hname : w.key = e.key)
    (hdead : w.dead = e.dead) : (r.update key w).WellFormed where
  firstId_ne_zero := h.firstId_ne_zero
  byId id k := (h.byId id k).trans (exists_entryAt?_update he _ (by rw [hid]) k).symm
  byHandle name k :=
    (h.byHandle name k).trans (exists_entryAt?_update he _ (by rw [hdead, hname]) k).symm
  free i := (h.free i).trans (exists_empty_update he w i).symm
  nodup_free := h.nodup_free
  dead := by
    have hcount := countP_isDead_update he w
    rw [hdead, Nat.add_right_cancel_iff] at hcount
    exact h.dead.trans hcount.symm
  issued := h.issued_of_update he hid
  retired := h.retired

/-! ## Death -/

/-- The name of a living entry stands for its key. -/
theorem WellFormed.byHandle_of_alive (h : r.WellFormed) {key : SlotKey} {e : Entry}
    (he : r.entryAt? key = some e) (halive : e.dead = false) :
    r.byHandle[e.key]? = some key :=
  (h.byHandle e.key key).mpr ⟨e, he, halive, rfl⟩

/-- The name of an entry is forgotten together with its key. -/
theorem WellFormed.byHandle_forgetHandle (h : r.WellFormed) {s : Registry}
    (hmap : s.byHandle = r.byHandle) {key : SlotKey} {e : Entry} (he : r.entryAt? key = some e)
    (name : EntityKey) (k : SlotKey) :
    (s.forgetHandle e.key key).byHandle[name]? = some k ↔
      k ≠ key ∧ ∃ x, r.entryAt? k = some x ∧ x.dead = false ∧ x.key = name := by
  rw [getElem?_byHandle_forgetHandle, hmap, ← h.byHandle]
  constructor
  · intro hk
    split at hk
    · exact absurd hk nofun
    · next hforget =>
      refine ⟨?_, hk⟩
      rintro rfl
      obtain ⟨x, hx, -, rfl⟩ := (h.byHandle name k).mp hk
      obtain rfl : e = x := Option.some.inj (he.symm.trans hx)
      exact hforget ⟨rfl, hk⟩
  · rintro ⟨hne, hk⟩
    rw [if_neg, hk]
    rintro ⟨rfl, hkey⟩
    exact hne (Option.some.inj (hk.symm.trans hkey))

/-- The living entries of a name, when one entry is dead. -/
theorem WellFormed.byHandle_markDead (h : r.WellFormed) {key : SlotKey} {e : Entry}
    (he : r.entryAt? key = some e) (halive : e.dead = false) (name : EntityKey) (k : SlotKey) :
    (r.markDead key).byHandle[name]? = some k ↔
      ∃ x, (r.markDead key).entryAt? k = some x ∧ x.dead = false ∧ x.key = name := by
  rw [entryAt?_markDead he halive, markDead_of_alive he halive,
    h.byHandle_forgetHandle (s := r.update key { e with dead := true }) rfl he]
  by_cases hk : k = key
  · simp [hk]
  · simp only [ne_eq, hk, not_false_eq_true, true_and, if_false]

/-- **An entry may die.** -/
theorem WellFormed.markDead (h : r.WellFormed) (key : SlotKey) : (r.markDead key).WellFormed := by
  cases he : r.entryAt? key with
  | none => simpa [Registry.markDead, he] using h
  | some e =>
    by_cases hdead : e.dead = true
    · simpa [Registry.markDead, he, hdead] using h
    have halive : e.dead = false := by simpa using hdead
    have hbyHandle := h.byHandle_markDead he halive
    have hcount := countP_isDead_update he { e with dead := true }
    rw [markDead_of_alive he halive] at hbyHandle ⊢
    exact
      { firstId_ne_zero := h.firstId_ne_zero
        byId := fun id k => (h.byId id k).trans
          (exists_entryAt?_update he (w := { e with dead := true }) (·.id = id) Iff.rfl k).symm
        byHandle := hbyHandle
        free := fun i => (h.free i).trans (exists_empty_update he { e with dead := true } i).symm
        nodup_free := h.nodup_free
        dead := by
          rw [halive] at hcount
          exact (congrArg (· + 1) h.dead).trans hcount.symm
        issued := h.issued_of_update he (w := { e with dead := true }) rfl
        retired := h.retired }

/-! ## Release -/

theorem countP_isDead_release {id : WireId} {key : SlotKey} {e : Entry}
    (hid : r.byId[id]? = some key) (he : r.entryAt? key = some e) :
    (r.release id).slots.countP Slot.isDead + (if e.dead then 1 else 0) =
      r.slots.countP Slot.isDead := by
  obtain ⟨slot, hslot, -, hentry⟩ := entryAt?_eq_some_iff.mp he
  have h := countP_setIfInBounds ⟨key.generation + 1, none⟩ Slot.isDead hslot
  rw [Slot.isDead, Slot.isDead, hentry] at h
  rw [release_of_tracked hid he]
  exact h

/-- What is found after a release is what was found before, but through the released key. -/
theorem exists_entryAt?_release {id : WireId} {key : SlotKey} {e : Entry}
    (hid : r.byId[id]? = some key) (he : r.entryAt? key = some e) (P : Entry → Prop)
    (k : SlotKey) :
    (∃ x, (r.release id).entryAt? k = some x ∧ P x) ↔
      k ≠ key ∧ ∃ x, r.entryAt? k = some x ∧ P x := by
  rw [entryAt?_release hid he]
  by_cases hk : k = key
  · simp [hk]
  · simp only [hk, if_false, ne_eq, not_false_eq_true, true_and]

/-- A released id is no more in the map. -/
theorem WellFormed.byId_release (h : r.WellFormed) {id : WireId} {key : SlotKey} {e : Entry}
    (hid : r.byId[id]? = some key) (he : r.entryAt? key = some e) (i : WireId) (k : SlotKey) :
    (r.release id).byId[i]? = some k ↔
      ∃ x, (r.release id).entryAt? k = some x ∧ x.id = i := by
  rw [exists_entryAt?_release hid he (·.id = i), ← h.byId, release_of_tracked hid he]
  change (r.byId.erase id)[i]? = some k ↔ _
  rw [Std.TreeMap.getElem?_erase]
  by_cases hi : i = id
  · subst hi
    rw [if_pos Std.ReflCmp.compare_self, hid]
    simp only [reduceCtorEq, Option.some.injEq, false_iff, not_and, ne_eq]
    exact fun hk hkey => hk hkey.symm
  · rw [if_neg fun hc => hi (Std.LawfulEqCmp.compare_eq_iff_eq.mp hc).symm]
    refine ⟨fun hk => ⟨?_, hk⟩, And.right⟩
    rintro rfl
    obtain ⟨x, hx, rfl⟩ := (h.byId i k).mp hk
    obtain ⟨x', hx', rfl⟩ := (h.byId id k).mp hid
    exact hi (congrArg Entry.id (Option.some.inj (hx.symm.trans hx')))

theorem WellFormed.byHandle_release (h : r.WellFormed) {id : WireId} {key : SlotKey} {e : Entry}
    (hid : r.byId[id]? = some key) (he : r.entryAt? key = some e) (name : EntityKey)
    (k : SlotKey) :
    (r.release id).byHandle[name]? = some k ↔
      ∃ x, (r.release id).entryAt? k = some x ∧ x.dead = false ∧ x.key = name := by
  rw [exists_entryAt?_release hid he (fun x => x.dead = false ∧ x.key = name),
    release_of_tracked hid he]
  exact h.byHandle_forgetHandle rfl he name k

/-- The released slot is the one that becomes free. -/
theorem WellFormed.free_release (h : r.WellFormed) {id : WireId} {key : SlotKey} {e : Entry}
    (hid : r.byId[id]? = some key) (he : r.entryAt? key = some e) (i : Nat) :
    i ∈ (r.release id).free ↔
      ∃ slot, (r.release id).slots[i]? = some slot ∧ slot.entry = none := by
  obtain ⟨slot, hslot, -, -⟩ := entryAt?_eq_some_iff.mp he
  rw [release_of_tracked hid he]
  change i ∈ key.index :: r.free ↔
    ∃ s, (r.slots.setIfInBounds key.index ⟨key.generation + 1, none⟩)[i]? = some s ∧ s.entry = none
  rw [exists_empty_write _ hslot, List.mem_cons, h.free]
  by_cases hi : i = key.index
  · simp [hi]
  · simp only [hi, false_or, if_false]

/-- A full slot is not free. -/
theorem WellFormed.not_mem_free (h : r.WellFormed) {key : SlotKey} {e : Entry}
    (he : r.entryAt? key = some e) : key.index ∉ r.free := fun hmem => by
  obtain ⟨slot, hslot, hempty⟩ := (h.free key.index).mp hmem
  exact absurd (he.symm.trans (entryAt?_of_empty hslot hempty)) nofun

theorem WellFormed.dead_release (h : r.WellFormed) {id : WireId} {key : SlotKey} {e : Entry}
    (hid : r.byId[id]? = some key) (he : r.entryAt? key = some e) :
    (r.release id).dead = (r.release id).slots.countP Slot.isDead := by
  have hcount := countP_isDead_release hid he
  have hdead : (r.release id).dead = if e.dead then r.dead - 1 else r.dead := by
    rw [release_of_tracked hid he]
  rw [hdead, h.dead]
  by_cases hgone : e.dead = true
  · rw [if_pos hgone] at hcount ⊢
    omega
  · rw [if_neg hgone] at hcount ⊢
    omega

/-- **Any id may be released.** -/
theorem WellFormed.release (h : r.WellFormed) (id : WireId) : (r.release id).WellFormed := by
  cases hid : r.byId[id]? with
  | none => simpa [Registry.release, hid] using h
  | some key =>
    obtain ⟨e, he, -⟩ := (h.byId id key).mp hid
    have hbyId := h.byId_release hid he
    have hbyHandle := h.byHandle_release hid he
    have hfree := h.free_release hid he
    have hdead := h.dead_release hid he
    have hentry := entryAt?_release hid he
    rw [release_of_tracked hid he] at *
    exact
      { firstId_ne_zero := h.firstId_ne_zero
        byId := hbyId
        byHandle := hbyHandle
        free := hfree
        nodup_free := List.nodup_cons.mpr ⟨h.not_mem_free he, h.nodup_free⟩
        dead := hdead
        issued := fun k x hx => by
          rw [hentry] at hx
          split at hx
          · simp at hx
          · exact h.issued k x hx
        retired := by
          simp only
          split
          · exact h.retired
          · exact h.retired.insert _ }

/-! ## Issue -/

/-- Filling a slot changes the slots and the free list. -/
theorem occupy_eq (e : Entry) :
    (r.occupy e).2 = { r with slots := (r.occupy e).2.slots, free := (r.occupy e).2.free } := by
  unfold occupy
  split <;> rfl

/-- Taking in an entry, spelled out. -/
theorem enter_eq (e : Entry) :
    r.enter e = { r with
      slots := (r.occupy e).2.slots
      free := (r.occupy e).2.free
      issued := r.issued + 1
      byId := r.byId.insert e.id (r.occupy e).1
      byHandle := r.byHandle.insert e.key (r.occupy e).1 } := by
  rw [enter]
  simp only
  rw [occupy_eq]

theorem WellFormed.exists_empty_of_mem_free (h : r.WellFormed) :
    ∀ i ∈ r.free, ∃ slot, r.slots[i]? = some slot ∧ slot.entry = none :=
  fun i hi => (h.free i).mp hi

/-- A slot that is filled is no more free. -/
theorem WellFormed.free_occupy (h : r.WellFormed) (e : Entry) :
    (∀ i, i ∈ (r.occupy e).2.free ↔
      ∃ slot, (r.occupy e).2.slots[i]? = some slot ∧ slot.entry = none) ∧
    (r.occupy e).2.free.Nodup := by
  have hnodup := h.nodup_free
  have hfree := h.free
  unfold occupy
  split
  · next i rest hlist =>
    obtain ⟨slot, hslot, -⟩ := h.exists_empty_of_mem_free i (by simp [hlist])
    rw [hlist, List.nodup_cons] at hnodup
    refine ⟨fun j => ?_, hnodup.2⟩
    simp only
    rw [exists_empty_write _ hslot, ← hfree, hlist, List.mem_cons]
    by_cases hj : j = i
    · simpa [hj] using hnodup.1
    · simp only [hj, false_or, if_false]
  · next hlist =>
    refine ⟨fun j => ?_, hnodup⟩
    rw [hfree]
    simp only [Array.getElem?_push]
    by_cases hj : j = r.slots.size
    · subst hj
      simp
    · rw [if_neg hj]

theorem WellFormed.countP_isDead_occupy (h : r.WellFormed) {e : Entry} (halive : e.dead = false) :
    (r.occupy e).2.slots.countP Slot.isDead = r.slots.countP Slot.isDead := by
  unfold occupy
  split
  · next i rest hlist =>
    obtain ⟨slot, hslot, hempty⟩ := h.exists_empty_of_mem_free i (by simp [hlist])
    have hcount := countP_setIfInBounds
      ⟨(r.slots[i]?.map (·.generation)).getD 0, some e⟩ Slot.isDead hslot
    simpa [Slot.isDead, hempty, halive] using hcount
  · rw [Array.countP_push]
    simp [Slot.isDead, halive]

/-- The next id is as many behind the first as there were issued. -/
theorem toNat_nextId (hroom : r.HasRoom) : r.nextId.toNat = r.firstId.toNat + r.issued := by
  have hroom' : r.firstId.toNat + r.issued < 2 ^ 64 := hroom
  rw [nextId, UInt64.toNat_add, UInt64.toNat_ofNat']
  omega

theorem not_issued_nextId (hroom : r.HasRoom) : ¬ r.Issued ⟨r.nextId⟩ := fun h => by
  have := h.2
  rw [toNat_nextId hroom] at this
  exact Nat.lt_irrefl _ this

theorem issued_nextId (hroom : r.HasRoom) {s : Registry} (hfirst : s.firstId = r.firstId)
    (hlt : r.issued < s.issued) : s.Issued ⟨r.nextId⟩ := by
  unfold Issued
  rw [hfirst, toNat_nextId hroom]
  omega

/-- Every id that was issued stays so when more are. -/
theorem Issued.mono {s : Registry} {id : WireId} (h : r.Issued id) (hfirst : s.firstId = r.firstId)
    (hle : r.issued ≤ s.issued) : s.Issued id := by
  unfold Issued at *
  rw [hfirst]
  omega

/-- What is found after an entry was taken in is that entry, or what was found before. -/
theorem exists_entryAt?_enter (h : r.WellFormed) (e : Entry) (P : Entry → Prop) (k : SlotKey) :
    (∃ x, (r.enter e).entryAt? k = some x ∧ P x) ↔
      (k = (r.occupy e).1 ∧ P e) ∨ ∃ x, r.entryAt? k = some x ∧ P x := by
  obtain ⟨hnone, hentry⟩ := entryAt?_occupy h.exists_empty_of_mem_free e
  rw [entryAt?_congr (s := r.enter e) (r := (r.occupy e).2) (by rw [enter_eq]), hentry]
  by_cases hk : k = (r.occupy e).1
  · subst hk
    simp [hnone]
  · simp only [hk, if_false, false_and, false_or]

/-- A map from names to keys, with one name more. -/
theorem getElem?_insert_iff {κ : Type} [Ord κ] [Std.TransOrd κ] [Std.LawfulEqOrd κ]
    {m : Std.TreeMap κ SlotKey} {Q : κ → SlotKey → Prop} (hm : ∀ n k, m[n]? = some k ↔ Q n k)
    {name : κ} (hnew : ∀ k, ¬ Q name k) (key : SlotKey) (n : κ) (k : SlotKey) :
    (m.insert name key)[n]? = some k ↔ (k = key ∧ name = n) ∨ Q n k := by
  rw [Std.TreeMap.getElem?_insert]
  by_cases hn : name = n
  · subst hn
    rw [if_pos Std.ReflCmp.compare_self]
    simp only [Option.some.injEq, and_true, hnew, or_false, eq_comm]
  · rw [if_neg fun hc => hn (Std.LawfulEqCmp.compare_eq_iff_eq.mp hc), hm]
    simp only [hn, and_false, false_or]

/-- **An entry with the next id may be taken in**, if its name has no living entry. -/
theorem WellFormed.enter (h : r.WellFormed) (hroom : r.HasRoom) {e : Entry}
    (hid : e.id = ⟨r.nextId⟩) (halive : e.dead = false)
    (hnew : ∀ k x, r.entryAt? k = some x → x.dead = false → x.key ≠ e.key) :
    (r.enter e).WellFormed := by
  have hold : ∀ k x, r.entryAt? k = some x → x.id ≠ e.id := fun k x hx hsame =>
    not_issued_nextId hroom (hid ▸ hsame ▸ h.issued k x hx)
  have hentry := exists_entryAt?_enter h e
  obtain ⟨hfree, hnodup⟩ := h.free_occupy e
  rw [enter_eq] at hentry ⊢
  exact
    { firstId_ne_zero := h.firstId_ne_zero
      byId := fun id k => by
        rw [hentry (·.id = id)]
        exact getElem?_insert_iff h.byId (fun k ⟨x, hx, hid⟩ => hold k x hx hid) _ id k
      byHandle := fun name k => by
        rw [hentry (fun x => x.dead = false ∧ x.key = name),
          getElem?_insert_iff h.byHandle fun k ⟨x, hx, hx', hname⟩ => hnew k x hx hx' hname]
        simp only [halive, true_and]
      free := hfree
      nodup_free := hnodup
      dead := h.dead.trans (h.countP_isDead_occupy halive).symm
      issued := fun k x hx => by
        rcases (hentry (· = x) k).mp ⟨x, hx, rfl⟩ with ⟨-, rfl⟩ | ⟨_, hbefore, rfl⟩
        · rw [hid]
          exact issued_nextId hroom rfl (Nat.lt_succ_self r.issued)
        · exact (h.issued k _ hbefore).mono rfl (Nat.le_succ r.issued)
      retired := h.retired }

end Registry
end DebugWire

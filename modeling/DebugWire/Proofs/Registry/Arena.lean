import DebugWire.Registry.Collection

/-!
# Proofs/Registry/Arena — writing one slot changes what one key finds

A key finds the occupant of its slot only while the slot has the generation that the key was made
with.  So at most one key finds anything in a slot, and whatever is written there is seen through
one key only: `entryAt?_update`, `entryAt?_markDead`, `entryAt?_release` and `entryAt?_occupy` are
point updates of `entryAt?`.
-/

namespace DebugWire.Registry

variable {r s : Registry}

/-! ## One slot -/

theorem entryAt?_eq_some_iff {key : SlotKey} {e : Entry} :
    r.entryAt? key = some e ↔ ∃ slot, r.slots[key.index]? = some slot ∧
      slot.generation = key.generation ∧ slot.entry = some e := by
  simp only [entryAt?, Option.bind_eq_bind, Option.bind_eq_some_iff, Option.ite_none_right_eq_some]

/-- What a key finds depends on the slots alone. -/
theorem entryAt?_congr (h : s.slots = r.slots) (key : SlotKey) :
    s.entryAt? key = r.entryAt? key := by
  rw [entryAt?, entryAt?, h]

/-- A slot that is written over shows its new occupant to one generation. -/
theorem entryAt?_write {i : Nat} {slot w : Slot} (hslot : r.slots[i]? = some slot)
    (hwrite : s.slots = r.slots.setIfInBounds i w) (key : SlotKey) :
    s.entryAt? key =
      if key.index = i then (if w.generation = key.generation then w.entry else none)
      else r.entryAt? key := by
  have hi : i < r.slots.size := (Array.getElem?_eq_some_iff.mp hslot).1
  by_cases h : key.index = i
  · subst h
    rw [entryAt?, hwrite, Array.getElem?_setIfInBounds_self_of_lt hi, if_pos rfl]
    rfl
  · rw [entryAt?, hwrite, Array.getElem?_setIfInBounds_ne (Ne.symm h), if_neg h, entryAt?]

/-- Two keys that find something in one slot are the same key. -/
theorem key_eq_of_index_eq {key key' : SlotKey} {e e' : Entry} (h : r.entryAt? key = some e)
    (h' : r.entryAt? key' = some e') (hindex : key.index = key'.index) : key = key' := by
  obtain ⟨slot, hslot, hgen, -⟩ := entryAt?_eq_some_iff.mp h
  obtain ⟨slot', hslot', hgen', -⟩ := entryAt?_eq_some_iff.mp h'
  obtain ⟨i, g⟩ := key
  obtain ⟨i', g'⟩ := key'
  obtain rfl : i = i' := hindex
  obtain rfl : slot = slot' := Option.some.inj (hslot.symm.trans hslot')
  obtain rfl : g = g' := hgen.symm.trans hgen'
  rfl

/-- A slot that held the occupant of `key` and is written over: the other keys find what they
found. -/
theorem entryAt?_overwrite {key : SlotKey} {e : Entry} {w : Slot}
    (he : r.entryAt? key = some e) (hwrite : s.slots = r.slots.setIfInBounds key.index w)
    (hnew : w.generation = key.generation ∨ w.entry = none) (k : SlotKey) :
    s.entryAt? k = if k = key then w.entry else r.entryAt? k := by
  obtain ⟨slot, hslot, hgen, hentry⟩ := entryAt?_eq_some_iff.mp he
  rw [entryAt?_write hslot hwrite]
  by_cases hk : k = key
  · subst hk
    rw [if_pos rfl, if_pos rfl]
    rcases hnew with h | h
    · rw [if_pos h]
    · rw [h, ite_self]
  · rw [if_neg hk]
    by_cases hi : k.index = key.index
    · have hgen' : key.generation ≠ k.generation := fun h => hk (by cases k; cases key; simp_all)
      have hnone : r.entryAt? k = none := by
        rw [Option.eq_none_iff_forall_ne_some]
        exact fun e' he' => hk (key_eq_of_index_eq he' he hi)
      rw [if_pos hi, hnone]
      rcases hnew with h | h
      · rw [if_neg (h ▸ hgen')]
      · rw [h, ite_self]
    · rw [if_neg hi]

/-- Writing a slot over makes no other slot empty or full. -/
theorem exists_empty_write {slots : Array Slot} {i : Nat} {slot : Slot} (w : Slot)
    (hslot : slots[i]? = some slot) (j : Nat) :
    (∃ s, (slots.setIfInBounds i w)[j]? = some s ∧ s.entry = none) ↔
      if j = i then w.entry = none else ∃ s, slots[j]? = some s ∧ s.entry = none := by
  have hi : i < slots.size := (Array.getElem?_eq_some_iff.mp hslot).1
  by_cases h : j = i
  · subst h
    simp only [Array.getElem?_setIfInBounds_self_of_lt hi, Option.some.injEq, if_true,
      exists_eq_left']
  · simp only [Array.getElem?_setIfInBounds_ne (Ne.symm h), if_neg h]

/-! ## Counting -/

/-- Replacing one slot moves a count by what the two slots differ in. -/
theorem countP_setIfInBounds {slots : Array Slot} {i : Nat} {slot : Slot} (w : Slot)
    (p : Slot → Bool) (hslot : slots[i]? = some slot) :
    (slots.setIfInBounds i w).countP p + (if p slot then 1 else 0) =
      slots.countP p + (if p w then 1 else 0) := by
  obtain ⟨hi, hget⟩ := Array.getElem?_eq_some_iff.mp hslot
  have hle : (if p slot then 1 else 0) ≤ slots.countP p := by
    split
    · exact Array.countP_pos_iff.mpr ⟨slot, Array.mem_of_getElem? hslot, ‹_›⟩
    · exact Nat.zero_le _
  rw [Array.setIfInBounds, dif_pos hi, Array.countP_set hi, hget]
  omega

/-! ## The parts of an operation -/

theorem entryAt?_update {key : SlotKey} {e : Entry} (he : r.entryAt? key = some e) (w : Entry)
    (k : SlotKey) : (r.update key w).entryAt? k = if k = key then some w else r.entryAt? k :=
  entryAt?_overwrite (w := ⟨key.generation, some w⟩) he rfl (Or.inl rfl) k

/-- Forgetting a handle takes one entry out of the map, if it is the one meant. -/
theorem getElem?_byHandle_forgetHandle (name : EntityKey) (key : SlotKey) (n : EntityKey) :
    (r.forgetHandle name key).byHandle[n]? =
      if n = name ∧ r.byHandle[name]? = some key then none else r.byHandle[n]? := by
  rw [forgetHandle]
  by_cases h : r.byHandle[name]? = some key
  · rw [if_pos h, Std.TreeMap.getElem?_erase]
    by_cases hn : n = name
    · rw [if_pos (Std.LawfulEqCmp.compare_eq_iff_eq.mpr hn.symm), if_pos ⟨hn, h⟩]
    · rw [if_neg fun hc => hn (Std.LawfulEqCmp.compare_eq_iff_eq.mp hc).symm,
        if_neg fun hc => hn hc.1]
  · rw [if_neg h, if_neg fun hc => h hc.2]

/-- The death of an entry, spelled out. -/
theorem markDead_of_alive {key : SlotKey} {e : Entry} (he : r.entryAt? key = some e)
    (halive : e.dead = false) :
    r.markDead key =
      { (r.update key { e with dead := true }).forgetHandle e.key key with
        dead := r.dead + 1 } := by
  simp [markDead, he, halive]

theorem entryAt?_markDead {key : SlotKey} {e : Entry} (he : r.entryAt? key = some e)
    (halive : e.dead = false) (k : SlotKey) :
    (r.markDead key).entryAt? k = if k = key then some { e with dead := true }
      else r.entryAt? k := by
  rw [markDead_of_alive he halive]
  exact entryAt?_update he { e with dead := true } k

/-- The release of an id, spelled out. -/
theorem release_of_tracked {id : WireId} {key : SlotKey} {e : Entry}
    (hid : r.byId[id]? = some key) (he : r.entryAt? key = some e) :
    r.release id = { r.forgetHandle e.key key with
      slots := r.slots.setIfInBounds key.index ⟨key.generation + 1, none⟩
      free := key.index :: r.free
      byId := r.byId.erase id
      retired := if e.kind.isObject then r.retired else r.retired.insert id.raw.toNat
      dead := if e.dead then r.dead - 1 else r.dead } := by
  rw [release]
  simp only [hid, he]

theorem entryAt?_release {id : WireId} {key : SlotKey} {e : Entry} (hid : r.byId[id]? = some key)
    (he : r.entryAt? key = some e) (k : SlotKey) :
    (r.release id).entryAt? k = if k = key then none else r.entryAt? k :=
  entryAt?_overwrite (w := ⟨key.generation + 1, none⟩) he
    (by rw [release_of_tracked hid he]) (Or.inr rfl) k

/-- An empty slot finds nothing, whatever the key. -/
theorem entryAt?_of_empty {key : SlotKey} {slot : Slot} (hslot : r.slots[key.index]? = some slot)
    (hentry : slot.entry = none) : r.entryAt? key = none := by
  rw [Option.eq_none_iff_forall_ne_some]
  intro e he
  obtain ⟨slot', hslot', -, hentry'⟩ := entryAt?_eq_some_iff.mp he
  obtain rfl : slot = slot' := Option.some.inj (hslot.symm.trans hslot')
  exact absurd (hentry.symm.trans hentry') nofun

/-- A new occupant is found through its key, which found nothing before. -/
theorem entryAt?_occupy
    (hfree : ∀ i ∈ r.free, ∃ slot, r.slots[i]? = some slot ∧ slot.entry = none) (e : Entry) :
    r.entryAt? (r.occupy e).1 = none ∧
      ∀ k, (r.occupy e).2.entryAt? k = if k = (r.occupy e).1 then some e else r.entryAt? k := by
  cases hlist : r.free with
  | cons i rest =>
    obtain ⟨slot, hslot, hentry⟩ := hfree i (by simp [hlist])
    have hocc : r.occupy e = (⟨i, slot.generation⟩,
        { r with slots := r.slots.setIfInBounds i ⟨slot.generation, some e⟩, free := rest }) := by
      simp [occupy, hlist, hslot]
    rw [hocc]
    refine ⟨entryAt?_of_empty hslot hentry, fun k => ?_⟩
    rw [entryAt?_write (w := ⟨slot.generation, some e⟩) hslot rfl]
    by_cases hi : k.index = i
    · by_cases hg : slot.generation = k.generation
      · rw [if_pos hi, if_pos hg, if_pos (by cases k; simp_all)]
      · rw [if_pos hi, if_neg hg, if_neg (by rintro rfl; exact hg rfl),
          entryAt?_of_empty (hi ▸ hslot) hentry]
    · rw [if_neg hi, if_neg (by rintro rfl; exact hi rfl)]
  | nil =>
    have hocc : r.occupy e =
        (⟨r.slots.size, 0⟩, { r with slots := r.slots.push ⟨0, some e⟩ }) := by
      simp [occupy, hlist]
    have hnone : ∀ g, r.entryAt? ⟨r.slots.size, g⟩ = none := fun g => by
      rw [entryAt?, Array.getElem?_size]
      rfl
    rw [hocc]
    refine ⟨hnone 0, fun k => ?_⟩
    obtain ⟨i, g⟩ := k
    by_cases hi : i = r.slots.size
    · subst hi
      rw [hnone, entryAt?, Array.getElem?_push_size]
      by_cases hg : (0 : UInt32) = g
      · subst hg
        rw [if_pos rfl]
        rfl
      · rw [if_neg fun h => hg (congrArg SlotKey.generation h).symm]
        exact if_neg hg
    · rw [entryAt?, Array.getElem?_push, if_neg hi,
        if_neg fun h => hi (congrArg SlotKey.index h), entryAt?]

end DebugWire.Registry

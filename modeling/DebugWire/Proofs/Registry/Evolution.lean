import DebugWire.Proofs.Registry.Counter
import DebugWire.Proofs.Registry.Effect

/-!
# Proofs/Registry/Evolution — a step is a fate for the living and at most one newcomer

An observer of the table sees the living entries and which ids stood for something that is no
object.  `Evolves f new r s` tells both for `s` from what they were in `r`: every living entry met
the fate `f`, and `new` came in.  Every function of the registry gets one such sentence, and a sweep
gets the one that says that nothing happened (`WellFormed.evolves_sweepIfDue`).
-/

namespace DebugWire

/-- Kinds of one space are both those of objects, or neither is. -/
theorem EntityKind.isObject_eq_of_space {k k' : EntityKind} (h : IdSpace.of k = IdSpace.of k') :
    k.isObject = k'.isObject := by
  revert h
  cases k <;> cases k' <;> simp [IdSpace.of, isObject]

/-- A name of an entity that is no object tells the kind. -/
theorem EntityKind.eq_of_space {k k' : EntityKind} (h : IdSpace.of k' = IdSpace.of k)
    (hk : ¬ k.isObject) : k' = k := by
  cases k <;> cases k' <;> simp_all [IdSpace.of, EntityKind.isObject]

/-- Entries of one name are both objects, or neither is. -/
theorem Entry.isObject_eq_of_key_eq {e x : Entry} (h : x.key = e.key) :
    x.kind.isObject = e.kind.isObject :=
  EntityKind.isObject_eq_of_space (congrArg EntityKey.space h)

namespace Registry

/-- `s` comes of `r` as each living entry meets its fate and `new`, if there is one, comes in. -/
structure Evolves (fate : Entry → Option Entry) (new : Option Entry) (r s : Registry) : Prop where
  wellFormed : s.WellFormed
  firstId : s.firstId = r.firstId
  issued : s.issued = r.issued + new.toList.length
  live? : ∀ id, s.live? id = (new.filter (·.id = id)).or ((r.live? id).bind fate)
  isOther : ∀ id, s.isOther id =
    (r.isOther id || new.any fun e => e.id = id && !e.kind.isObject)

variable {r s t : Registry} {f g : Entry → Option Entry} {new : Option Entry}

/-! ## Composition -/

/-- Only what becomes of the living matters. -/
theorem Evolves.congr (hs : Evolves f new r s) (h : ∀ id e, r.live? id = some e → f e = g e) :
    Evolves g new r s where
  wellFormed := hs.wellFormed
  firstId := hs.firstId
  issued := hs.issued
  isOther := hs.isOther
  live? id := by
    rw [hs.live?]
    cases he : r.live? id with
    | none => rfl
    | some e => rw [Option.bind_some, Option.bind_some, h id e he]

/-- One fate after the other. -/
theorem Evolves.trans (hs : Evolves f none r s) (ht : Evolves g new s t) :
    Evolves (fun e => (f e).bind g) new r t where
  wellFormed := ht.wellFormed
  firstId := ht.firstId.trans hs.firstId
  issued := by rw [ht.issued, hs.issued]; rfl
  live? id := by
    rw [ht.live?, hs.live?, Option.filter_none, Option.none_or, Option.bind_assoc]
  isOther id := by rw [ht.isOther, hs.isOther, Option.any_none, Bool.or_false]

/-- Before a step, nothing happened. -/
theorem Evolves.after (hs : Evolves some none r s) (ht : Evolves g new s t) :
    Evolves g new r t := hs.trans ht

/-- After a step, nothing happened. -/
theorem Evolves.before (hs : Evolves f none r s) (ht : Evolves some none s t) :
    Evolves f none r t :=
  (hs.trans ht).congr fun _ e _ => Option.bind_fun_some (f e)

/-- A table that keeps its counter and its retired ids, and in which no id changes its sort. -/
theorem WellFormed.evolves_of_tracked? (hs : s.WellFormed) (hfirst : s.firstId = r.firstId)
    (hissued : s.issued = r.issued) (hretired : s.retired = r.retired)
    (hlive : ∀ id, s.live? id = (r.live? id).bind f)
    (hkind : ∀ id, (s.tracked? id).any (!·.kind.isObject) =
      (r.tracked? id).any (!·.kind.isObject)) : Evolves f none r s where
  wellFormed := hs
  firstId := hfirst
  issued := hissued
  live? := hlive
  isOther id := by rw [Registry.isOther, hretired, hkind, Option.any_none, Bool.or_false]; rfl

theorem WellFormed.evolves_refl (h : r.WellFormed) : Evolves some none r r :=
  h.evolves_of_tracked? rfl rfl rfl (fun id => (Option.bind_fun_some (r.live? id)).symm)
    fun _ => rfl

/-! ## The parts of an operation -/

theorem WellFormed.evolves_update (h : r.WellFormed) {key : SlotKey} {e w : Entry}
    (he : r.entryAt? key = some e) (hid : w.id = e.id) (hname : w.key = e.key)
    (hdead : w.dead = e.dead) :
    Evolves (fun x => some (if x.id = e.id then w else x)) none r (r.update key w) := by
  refine (h.update he hid hname hdead).evolves_of_tracked? rfl rfl rfl (fun id => ?_) fun id => ?_
  · rw [live?, live?, h.tracked?_update he]
    by_cases hx : id = e.id
    · subst hx
      rw [if_pos rfl, h.tracked?_of_entryAt? he]
      cases halive : e.dead <;> simp [Option.filter, hdead, halive]
    · rw [if_neg hx]
      cases hl : r.tracked? id with
      | none => rfl
      | some x =>
        have hne : x.id ≠ e.id := h.id_of_tracked? hl ▸ hx
        cases halive : x.dead <;> simp [Option.filter, halive, hne]
  · rw [h.tracked?_update he]
    by_cases hx : id = e.id
    · subst hx
      rw [if_pos rfl, h.tracked?_of_entryAt? he, Option.any_some, Option.any_some,
        Entry.isObject_eq_of_key_eq hname]
    · rw [if_neg hx]

/-- A living entry dies: one id stands for nothing any more. -/
theorem WellFormed.evolves_markDead (h : r.WellFormed) {key : SlotKey} {e : Entry}
    (he : r.entryAt? key = some e) (halive : e.dead = false) :
    Evolves (fun x => if x.id = e.id then none else some x) none r (r.markDead key) := by
  have htracked := h.tracked?_markDead he halive
  refine (h.markDead key).evolves_of_tracked? ?_ ?_ ?_ (fun id => ?_) fun id => ?_
  · rw [markDead_of_alive he halive]; rfl
  · rw [markDead_of_alive he halive]; rfl
  · rw [markDead_of_alive he halive]; rfl
  · rw [live?, live?, htracked]
    by_cases hx : id = e.id
    · subst hx
      rw [if_pos rfl, h.tracked?_of_entryAt? he]
      simp [Option.filter, halive]
    · rw [if_neg hx]
      cases hl : r.tracked? id with
      | none => rfl
      | some x =>
        have hne : x.id ≠ e.id := h.id_of_tracked? hl ▸ hx
        cases hdead : x.dead <;> simp [Option.filter, hdead, hne]
  · rw [htracked]
    by_cases hx : id = e.id
    · subst hx
      rw [if_pos rfl, h.tracked?_of_entryAt? he]
      rfl
    · rw [if_neg hx]

/-- An id that named no object is remembered as such when it is released. -/
theorem WellFormed.isOther_release (h : r.WellFormed) (id i : WireId) :
    (r.release id).isOther i = r.isOther i := by
  rw [isOther, isOther, h.tracked?_release]
  cases hid : r.byId[id]? with
  | none =>
    rw [Registry.release, hid]
    by_cases hi : i = id
    · subst hi
      simp [tracked?, hid]
    · rw [if_neg hi]
  | some key =>
    obtain ⟨e, he, rfl⟩ := (h.byId id key).mp hid
    rw [release_of_tracked hid he]
    by_cases hi : i = e.id
    · subst hi
      rw [if_pos rfl, h.tracked?_of_entryAt? he]
      cases hkind : e.kind.isObject <;> simp [hkind, Retired.contains_insert h.retired]
    · have hraw : (i.raw.toNat == e.id.raw.toNat) = false := by
        rw [beq_eq_false_iff_ne]
        intro hsame
        apply hi
        cases i
        cases hid' : e.id
        rw [hid'] at hsame
        exact congrArg WireId.mk (UInt64.toNat_inj.mp hsame)
      rw [if_neg hi]
      cases e.kind.isObject <;> simp [hraw, Retired.contains_insert h.retired]

theorem WellFormed.evolves_release (h : r.WellFormed) (id : WireId) :
    Evolves (fun x => if x.id = id then none else some x) none r (r.release id) where
  wellFormed := h.release id
  firstId := (release_counter id).1
  issued := (release_counter id).2
  isOther i := by rw [h.isOther_release, Option.any_none, Bool.or_false]
  live? i := by
    rw [Registry.live?, Registry.live?, h.tracked?_release]
    by_cases hi : i = id
    · subst hi
      rw [if_pos rfl]
      cases hl : r.tracked? i with
      | none => rfl
      | some x =>
        have hx : x.id = i := h.id_of_tracked? hl
        cases hdead : x.dead <;> simp [Option.filter, hdead, hx]
    · rw [if_neg hi]
      cases hl : r.tracked? i with
      | none => rfl
      | some x =>
        have hne : x.id ≠ id := h.id_of_tracked? hl ▸ hi
        cases hdead : x.dead <;> simp [Option.filter, hdead, hne]

theorem WellFormed.evolves_releaseAll (ids : List WireId) (h : r.WellFormed) :
    Evolves (fun x => if x.id ∈ ids then none else some x) none r (r.releaseAll ids) := by
  induction ids generalizing r with
  | nil => exact h.evolves_refl.congr fun _ e _ => by simp
  | cons id ids ih =>
    refine ((h.evolves_release id).trans (ih (h.release id))).congr fun _ e _ => ?_
    by_cases he : e.id = id <;> simp [he]

/-- An entry with the next id comes in. -/
theorem WellFormed.evolves_enter (h : r.WellFormed) (hroom : r.HasRoom) {e : Entry}
    (hid : e.id = ⟨r.nextId⟩) (halive : e.dead = false)
    (hnew : ∀ i x, r.live? i = some x → x.key ≠ e.key) :
    Evolves some (some e) r (r.enter e) where
  wellFormed := h.enter_of_live? hroom hid halive hnew
  firstId := by rw [enter_eq]
  issued := by rw [enter_eq]; rfl
  live? i := by
    rw [Registry.live?, Registry.live?, h.tracked?_enter hroom hid halive hnew]
    by_cases hi : i = e.id
    · subst hi
      simp [Option.filter, halive]
    · simp [hi, Ne.symm hi, Option.filter]
  isOther i := by
    rw [Registry.isOther, Registry.isOther, h.tracked?_enter hroom hid halive hnew, enter_eq]
    by_cases hi : i = e.id
    · subst hi
      have hnone : r.tracked? e.id = none := by
        rw [Option.eq_none_iff_forall_ne_some]
        exact fun x hx => not_issued_nextId hroom (hid ▸ h.issued_of_tracked? hx)
      simp [hnone]
    · simp [hi, Ne.symm hi]

/-! ## Sweeping -/

theorem WellFormed.mem_idsWhere (h : r.WellFormed) {p : Entry → Bool} {id : WireId} :
    id ∈ r.idsWhere p ↔ ∃ e, r.tracked? id = some e ∧ p e = true := by
  rw [idsWhere, List.mem_filter, Std.TreeMap.mem_keys, Option.any_eq_true]
  constructor
  · exact And.right
  · rintro ⟨e, he, hp⟩
    obtain ⟨key, hkey, -⟩ := h.exists_key he
    exact ⟨Std.TreeMap.mem_iff_isSome_getElem?.mpr (by rw [hkey]; rfl), e, he, hp⟩

/-- **A sweep changes nothing that anyone sees.** -/
theorem WellFormed.evolves_sweep (h : r.WellFormed) : Evolves some none r r.sweep.2 := by
  refine (h.evolves_releaseAll _).congr fun id e he => if_neg fun hmem => ?_
  obtain ⟨htracked, halive⟩ := live?_eq_some_iff.mp he
  obtain ⟨x, hx, hdead⟩ := h.mem_idsWhere.mp hmem
  rw [h.id_of_tracked? htracked, htracked, Option.some.injEq] at hx
  subst hx
  exact Bool.noConfusion (halive.symm.trans hdead)

theorem WellFormed.evolves_sweepIfDue (h : r.WellFormed) : Evolves some none r r.sweepIfDue := by
  unfold sweepIfDue
  split
  · exact h.evolves_sweep
  · exact h.evolves_refl

end Registry
end DebugWire

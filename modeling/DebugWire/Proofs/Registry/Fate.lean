import DebugWire.Proofs.Registry.Evolution

/-!
# Proofs/Registry/Fate — what each function makes of a living entry

A function of the registry looks at one entry at a time.  What it makes of it is a function of the
entry alone (`Entry.again`, `Entry.returned`, `Entry.bereaved`, `Entry.pinned`, `Entry.unpinned`),
and the table evolves by it: one sentence `WellFormed.evolves_…` for each function.
-/

namespace DebugWire

/-! ## Fates -/

namespace Entry

/-- Handed out once more. -/
def counted (e : Entry) : Entry := { e with references := countUp e.references }

/-- Registered once more, as an entity of a kind and perhaps with a tag. -/
def again (kind : EntityKind) (tag : Option TypeTag) (e : Entry) : Entry :=
  { e.counted with kind := e.kind.refine kind, typeTag := e.typeTag.or tag }

/-- With `count` references taken back. -/
def returned (count : Nat) (e : Entry) : Option Entry :=
  if e.references - count = 0 ∧ e.pins = 0 then none
  else some { e with references := e.references - count }

/-- With its entity gone. -/
def bereaved (e : Entry) : Option Entry :=
  if 0 < e.pins then some { e with freed := true } else none

/-- With a pin more. -/
def pinned (e : Entry) : Entry := { e with pins := countUp e.pins }

/-- With a pin less. -/
def unpinned (e : Entry) : Option Entry :=
  if e.pins - 1 = 0 ∧ e.freed then none else some { e with pins := e.pins - 1 }

/-- The first tag of a type stays, and a type stays a type. -/
theorem again_referenceType {e : Entry} (hkind : e.kind = .referenceType) (tag : TypeTag) :
    e.again .referenceType (some tag) =
      { e with references := countUp e.references, typeTag := some (e.typeTag.getD tag) } := by
  obtain ⟨id, handle, kind, typeTag, references, pins, freed, dead⟩ := e
  obtain rfl : kind = .referenceType := hkind
  cases typeTag <;> rfl

/-- What is learnt of an entity does not move it to another space. -/
theorem key_again {e : Entry} {kind : EntityKind} (hspace : e.key.space = IdSpace.of kind)
    (tag : Option TypeTag) : (e.again kind tag).key = e.key := by
  change (⟨IdSpace.of (e.kind.refine kind), e.handle⟩ : EntityKey) = ⟨IdSpace.of e.kind, e.handle⟩
  unfold EntityKind.refine
  split
  · exact congrArg (EntityKey.mk · e.handle) hspace.symm
  · rfl

/-- Only types live in the namespace of types. -/
theorem kind_of_space {e : Entry} (h : e.key.space = .referenceTypes) :
    e.kind = .referenceType := by
  have hspace : IdSpace.of e.kind = .referenceTypes := h
  revert hspace
  cases e.kind <;> simp [IdSpace.of]

/-- A second notice of the same end is none. -/
theorem bereaved_bereaved (e : Entry) : e.bereaved.bind bereaved = e.bereaved := by
  unfold bereaved
  split
  · next hpins => exact if_pos hpins
  · rfl

/-- The entry is still that of the same id and the same name. -/
structure Becomes (e x : Entry) : Prop where
  id : x.id = e.id
  key : x.key = e.key

namespace Becomes

variable {e x : Entry}

theorem refl (e : Entry) : e.Becomes e := ⟨rfl, rfl⟩

/-- What is learnt of an entry stays with its id and its name. -/
theorem again {kind : EntityKind} {handle : Handle} (hname : e.key = ⟨IdSpace.of kind, handle⟩)
    (tag : Option TypeTag) : e.Becomes (e.again kind tag) :=
  ⟨rfl, key_again (congrArg EntityKey.space hname) tag⟩

theorem of_returned {count : Nat} (h : e.returned count = some x) : e.Becomes x := by
  unfold returned at h
  split at h
  · exact absurd h nofun
  · exact Option.some.inj h ▸ ⟨rfl, rfl⟩

theorem of_bereaved (h : e.bereaved = some x) : e.Becomes x := by
  unfold bereaved at h
  split at h
  · exact Option.some.inj h ▸ ⟨rfl, rfl⟩
  · exact absurd h nofun

theorem of_unpinned (h : e.unpinned = some x) : e.Becomes x := by
  unfold unpinned at h
  split at h
  · exact absurd h nofun
  · exact Option.some.inj h ▸ ⟨rfl, rfl⟩

end Becomes

end Entry

namespace Registry

variable {r : Registry}

/-! ## By name -/

/-- The living entry of a name. -/
def holder? (r : Registry) (name : EntityKey) : Option Entry := (r.named? name).map Prod.snd

/-- **A name is held by the living entry that bears it**, and by no other. -/
theorem WellFormed.holder?_eq_some_iff (h : r.WellFormed) {name : EntityKey} {e : Entry} :
    r.holder? name = some e ↔ r.live? e.id = some e ∧ e.key = name := by
  rw [holder?, Option.map_eq_some_iff]
  constructor
  · rintro ⟨⟨key, x⟩, hn, rfl⟩
    exact h.live?_of_named? hn
  · rintro ⟨he, rfl⟩
    obtain ⟨key, hn⟩ := h.named?_of_live? he
    exact ⟨_, hn, rfl⟩

/-- And it is free if no living entry bears it. -/
theorem WellFormed.holder?_eq_none_iff (h : r.WellFormed) {name : EntityKey} :
    r.holder? name = none ↔ ∀ id e, r.live? id = some e → e.key ≠ name := by
  rw [holder?, Option.map_eq_none_iff, h.named?_eq_none_iff]

/-- The entry of a name changes. -/
theorem WellFormed.evolves_named (h : r.WellFormed) {name : EntityKey} {key : SlotKey} {e : Entry}
    (hn : r.named? name = some (key, e)) (change : Entry → Entry) (hid : (change e).id = e.id)
    (hname : (change e).key = e.key) (hdead : (change e).dead = e.dead) :
    Evolves (fun x => some (if x.key = name then change x else x)) none r
      (r.update key (change e)) := by
  obtain ⟨he, -, -⟩ := h.named?_eq_some_iff.mp hn
  obtain ⟨hlive, hkey⟩ := h.live?_of_named? hn
  refine (h.evolves_update he hid hname hdead).congr fun id x hx => congrArg some ?_
  by_cases hxe : x.id = e.id
  · have hsame : x = e := by
      rw [← h.id_of_live? hx, hxe, hlive] at hx
      exact (Option.some.inj hx).symm
    subst hsame
    rw [if_pos rfl, if_pos hkey]
  · rw [if_neg hxe, if_neg]
    intro hxname
    apply hxe
    rw [h.id_of_live? hx]
    exact h.id_eq_of_key_eq hx hlive (hxname.trans hkey.symm)

/-! ## Registration -/

/-- What comes in when an entity is registered. -/
def newcomer? (r : Registry) (handle : Handle) (kind : EntityKind) (tag : Option TypeTag) :
    Option Entry :=
  if (r.holder? ⟨IdSpace.of kind, handle⟩).isSome then none
  else some (.fresh ⟨r.nextId⟩ handle kind tag)

theorem Evolves.later {s : Registry} {f : Entry → Option Entry} {new : Option Entry}
    (h : Evolves f new r s) : Later r s :=
  ⟨h.firstId, by rw [h.issued]; exact Nat.le_add_right _ _⟩

/-- Without a newcomer no number is used. -/
theorem Evolves.nextId_eq {s : Registry} {f : Entry → Option Entry} (h : Evolves f none r s) :
    s.nextId = r.nextId := by
  rw [nextId, nextId, h.firstId, h.issued]
  rfl

/-- An entity that has no id gets the next, perhaps after a sweep. -/
theorem WellFormed.evolves_issue (h : r.WellFormed) (handle : Handle) (kind : EntityKind)
    (hn : r.named? ⟨IdSpace.of kind, handle⟩ = none) (tag : Option TypeTag)
    (hroom : (r.sweepIfDue.issue handle kind tag).2.HasRoom) (change : Entry → Entry) :
    Evolves (fun e => some (if e.key = ⟨IdSpace.of kind, handle⟩ then change e else e))
      (r.newcomer? handle kind tag) r (r.sweepIfDue.issue handle kind tag).2 ∧
    (r.sweepIfDue.issue handle kind tag).1 = ⟨r.nextId⟩ := by
  have hsweep := h.evolves_sweepIfDue
  have hroom' : r.sweepIfDue.HasRoom := hroom.of_later (later_issue handle kind tag)
  have hnew : ∀ i x, r.sweepIfDue.live? i = some x → x.key ≠ ⟨IdSpace.of kind, handle⟩ := by
    intro i x hx
    rw [hsweep.live?, Option.filter_none, Option.none_or, Option.bind_fun_some] at hx
    exact h.named?_eq_none_iff.mp hn i x hx
  have hnewcomer : r.newcomer? handle kind tag =
      some (.fresh ⟨r.sweepIfDue.nextId⟩ handle kind tag) := by
    rw [newcomer?, holder?, hn, hsweep.nextId_eq]
    rfl
  refine ⟨?_, congrArg WireId.mk hsweep.nextId_eq⟩
  rw [hnewcomer]
  have henter := hsweep.wellFormed.evolves_enter (e := .fresh ⟨r.sweepIfDue.nextId⟩ handle kind tag)
    hroom' rfl rfl hnew
  refine (hsweep.after henter).congr fun id e he => ?_
  rw [if_neg (h.named?_eq_none_iff.mp hn id e he)]

/-- The id that a registration answers with. -/
def idFor (r : Registry) (name : EntityKey) : WireId :=
  ((r.holder? name).map (·.id)).getD ⟨r.nextId⟩

/-- Whoever bears the name is registered again; if nobody does, an entry comes in. -/
theorem WellFormed.evolves_register (h : r.WellFormed) (handle : Handle) (kind : EntityKind)
    (hroom : (r.register handle kind).2.HasRoom) :
    Evolves (fun e => some (if e.key = ⟨IdSpace.of kind, handle⟩ then e.again kind none else e))
      (r.newcomer? handle kind none) r (r.register handle kind).2 ∧
    (r.register handle kind).1 = r.idFor ⟨IdSpace.of kind, handle⟩ := by
  unfold register at hroom ⊢
  cases hn : r.named? ⟨IdSpace.of kind, handle⟩ with
  | none =>
    rw [hn] at hroom
    obtain ⟨hevolves, hid⟩ := h.evolves_issue handle kind hn none hroom (Entry.again kind none)
    refine ⟨hevolves, hid.trans ?_⟩
    rw [idFor, holder?, hn]
    rfl
  | some found =>
    obtain ⟨key, e⟩ := found
    have hkey := (h.live?_of_named? hn).2
    have hagain : { e with references := countUp e.references, kind := e.kind.refine kind } =
        e.again kind none := by
      rw [Entry.again, Option.or_none]
      rfl
    have hnewcomer : r.newcomer? handle kind none = none := by rw [newcomer?, holder?, hn]; rfl
    refine ⟨?_, by rw [idFor, holder?, hn]; rfl⟩
    rw [hnewcomer]
    simp only [hagain]
    exact h.evolves_named hn (Entry.again kind none) rfl
      (Entry.key_again (congrArg EntityKey.space hkey) none) rfl

/-- The answer to the registration of a type whose tag is at hand. -/
def typeRefFor (r : Registry) (handle : Handle) (tag : TypeTag) : TypeRef :=
  ⟨((r.holder? ⟨.referenceTypes, handle⟩).bind (·.typeTag)).getD tag,
    r.idFor ⟨.referenceTypes, handle⟩⟩

/-- As for any entity, and the tag is learnt if none was known. -/
theorem WellFormed.evolves_registerTagged (h : r.WellFormed) (handle : Handle) (tag : TypeTag)
    (hroom : (r.registerTagged handle tag).2.HasRoom) :
    Evolves (fun e => some (if e.key = ⟨.referenceTypes, handle⟩
        then e.again .referenceType (some tag) else e))
      (r.newcomer? handle .referenceType (some tag)) r (r.registerTagged handle tag).2 ∧
    (r.registerTagged handle tag).1 = r.typeRefFor handle tag := by
  unfold registerTagged at hroom ⊢
  cases hn : r.named? ⟨.referenceTypes, handle⟩ with
  | none =>
    rw [hn] at hroom
    obtain ⟨hevolves, hid⟩ := h.evolves_issue handle .referenceType hn (some tag) hroom
      (Entry.again .referenceType (some tag))
    refine ⟨hevolves, ?_⟩
    simp only [hid]
    rw [typeRefFor, idFor, holder?, hn]
    rfl
  | some found =>
    obtain ⟨key, e⟩ := found
    have hkey := (h.live?_of_named? hn).2
    have hspace : e.key.space = .referenceTypes := congrArg EntityKey.space hkey
    have hagain := Entry.again_referenceType (Entry.kind_of_space hspace) tag
    have hnewcomer : r.newcomer? handle .referenceType (some tag) = none := by
      rw [newcomer?, holder?, IdSpace.of, hn]
      rfl
    refine ⟨?_, by rw [typeRefFor, idFor, holder?, hn]; rfl⟩
    rw [hnewcomer]
    simp only [← hagain]
    exact h.evolves_named hn (Entry.again .referenceType (some tag)) rfl
      (Entry.key_again hspace (some tag)) rfl

/-- A type is looked up, and counted if it is there. -/
theorem WellFormed.evolves_knownType (h : r.WellFormed) (handle : Handle) :
    Evolves (fun e => some (if e.key = ⟨.referenceTypes, handle⟩ then e.counted else e)) none r
      (r.knownType handle).2 ∧
    (r.knownType handle).1 =
      (r.holder? ⟨.referenceTypes, handle⟩).bind fun e => e.typeTag.map (⟨·, e.id⟩) := by
  unfold knownType holder?
  cases hn : r.named? ⟨.referenceTypes, handle⟩ with
  | none =>
    refine ⟨h.evolves_refl.congr fun id e he => ?_, rfl⟩
    rw [if_neg (h.named?_eq_none_iff.mp hn id e he)]
  | some found =>
    obtain ⟨key, e⟩ := found
    exact ⟨h.evolves_named hn Entry.counted rfl rfl rfl, rfl⟩

/-! ## By id -/

/-- An id has one entry, by whichever way it was found. -/
theorem WellFormed.eq_of_id_eq (h : r.WellFormed) {key : SlotKey} {e x : Entry} {id : WireId}
    (he : r.entryAt? key = some e) (hx : r.live? id = some x) (hsame : x.id = e.id) : x = e := by
  have htracked := (live?_eq_some_iff.mp hx).1
  rw [← h.id_of_tracked? htracked, hsame, h.tracked?_of_entryAt? he] at htracked
  exact (Option.some.inj htracked).symm

/-- The entry of an id changes. -/
theorem WellFormed.evolves_of_live? (h : r.WellFormed) {key : SlotKey} {e x : Entry}
    (he : r.entryAt? key = some e) (hid : x.id = e.id) (hname : x.key = e.key)
    (hdead : x.dead = e.dead) (change : Entry → Option Entry) (hx : change e = some x) :
    Evolves (fun y => if y.id = e.id then change y else some y) none r (r.update key x) := by
  refine (h.evolves_update he hid hname hdead).congr fun i y hy => ?_
  by_cases hye : y.id = e.id
  · rw [if_pos hye, if_pos hye, h.eq_of_id_eq he hy hye, hx]
  · rw [if_neg hye, if_neg hye]

/-- An id that stands for nothing is changed by nothing. -/
theorem WellFormed.ne_id_of_dead (h : r.WellFormed) {id : WireId} (hnone : r.live? id = none)
    {i : WireId} {e : Entry} (he : r.live? i = some e) : e.id ≠ id := by
  rintro rfl
  rw [h.id_of_live? he, he] at hnone
  exact absurd hnone nofun

/-- The null id stands for nothing. -/
theorem WellFormed.id_ne_null (h : r.WellFormed) {id : WireId} {e : Entry}
    (he : r.tracked? id = some e) : id ≠ .null := by
  rintro rfl
  have hzero : r.firstId.toNat = 0 := Nat.le_zero.mp (h.issued_of_tracked? he).1
  exact h.firstId_ne_zero (UInt64.toNat_inj.mp hzero)

/-- Giving an id back forgets it at once, whatever its counts are. -/
theorem WellFormed.evolves_dispose (h : r.WellFormed) (id : WireId) :
    Evolves (fun e => if e.id = id then none else some e) none r (r.dispose id) := by
  unfold dispose
  split
  · next hnull =>
    refine h.evolves_refl.congr fun i e he => ?_
    rw [if_neg]
    intro hid
    refine h.id_ne_null (live?_eq_some_iff.mp he).1 ?_
    rw [← h.id_of_live? he, hid, hnull]
  · exact h.evolves_release id

/-- **References are given back to objects only**; other ids are let pass. -/
theorem WellFormed.evolves_disposeObjects (h : r.WellFormed) (id : WireId) (count : Nat) :
    Evolves (fun e => if e.id = id ∧ e.kind.isObject then e.returned count else some e) none r
      (r.disposeObjects id count) := by
  unfold disposeObjects
  cases hid : r.byId[id]? with
  | none =>
    have hnone : r.live? id = none := by simp [live?, tracked?, hid]
    exact h.evolves_refl.congr fun i e he => by simp [h.ne_id_of_dead hnone he]
  | some key =>
    obtain ⟨e, he, rfl⟩ := (h.byId id key).mp hid
    have hsame : ∀ i y, r.live? i = some y → y.id = e.id → y = e :=
      fun _ _ hy hye => h.eq_of_id_eq he hy hye
    simp only [he, h.id_ne_null (h.tracked?_of_entryAt? he), false_or, Bool.not_eq_true',
      Bool.eq_false_iff, ne_eq, ite_not]
    split
    · next hobject =>
      have hupdate := h.evolves_update he (w := { e with references := e.references - count })
        rfl rfl rfl
      split
      · next hgone =>
        refine (hupdate.trans (hupdate.wellFormed.evolves_release e.id)).congr fun i y hy => ?_
        by_cases hye : y.id = e.id
        · simp [hsame i y hy hye, hobject, Entry.returned, hgone]
        · simp [hye]
      · next hstays =>
        refine hupdate.congr fun i y hy => ?_
        by_cases hye : y.id = e.id
        · rw [hsame i y hy hye]
          simp only [if_true, hobject, and_self, Entry.returned, if_neg hstays]
        · simp [hye]
    · next hobject =>
      refine h.evolves_refl.congr fun i y hy => ?_
      by_cases hye : y.id = e.id
      · simp [hsame i y hy hye, hobject]
      · simp [hye]

/-- The entity of one space ends. -/
theorem WellFormed.evolves_freeIn (h : r.WellFormed) (handle : Handle) (space : IdSpace) :
    Evolves (fun e => if e.key = ⟨space, handle⟩ then e.bereaved else some e) none r
      (r.freeIn handle space) := by
  unfold freeIn
  cases hname : r.byHandle[(⟨space, handle⟩ : EntityKey)]? with
  | none =>
    refine h.evolves_refl.congr fun i e he => ?_
    rw [if_neg]
    intro hkey
    obtain ⟨key, hn⟩ := h.named?_of_live? he
    obtain ⟨he', halive, -⟩ := h.named?_eq_some_iff.mp hn
    have hfound := h.byHandle_of_alive he' halive
    rw [hkey, hname] at hfound
    exact absurd hfound nofun
  | some key =>
    obtain ⟨e, he, halive, hkey⟩ := (h.byHandle ⟨space, handle⟩ key).mp hname
    have hlive := live?_eq_some_iff.mpr ⟨h.tracked?_of_entryAt? he, halive⟩
    have hsame : ∀ i y, r.live? i = some y → (y.id = e.id ↔ y.key = ⟨space, handle⟩) := by
      intro i y hy
      rw [← hkey]
      constructor
      · intro hye
        rw [← h.id_of_live? hy, hye, hlive] at hy
        rw [Option.some.inj hy]
      · intro hye
        rw [h.id_of_live? hy]
        exact h.id_eq_of_key_eq hy hlive hye
    simp only [he]
    split
    · next hpins =>
      have hfreed : e.bereaved = some { e with freed := true } := if_pos hpins
      refine (h.evolves_of_live? (x := { e with freed := true }) he rfl rfl rfl Entry.bereaved
        hfreed).congr fun i y hy => ?_
      simp only [hsame i y hy]
    · next hpins =>
      refine (h.evolves_markDead he halive).congr fun i y hy => ?_
      by_cases hye : y.key = ⟨space, handle⟩
      · have hbereaved : y.bereaved = none := by
          have hid := (hsame i y hy).mpr hye
          rw [← h.id_of_live? hy, hid, hlive] at hy
          rw [← Option.some.inj hy, Entry.bereaved, if_neg hpins]
        rw [if_pos ((hsame i y hy).mpr hye), if_pos hye, hbereaved]
      · rw [if_neg fun hid => hye ((hsame i y hy).mp hid), if_neg hye]

/-- The entities of several spaces end. -/
theorem WellFormed.evolves_freeInAll (handle : Handle) (spaces : List IdSpace)
    (h : r.WellFormed) :
    Evolves (fun e => if e.handle = handle ∧ e.key.space ∈ spaces then e.bereaved else some e) none
      r (spaces.foldl (freeIn handle) r) := by
  induction spaces generalizing r with
  | nil => exact h.evolves_refl.congr fun _ e _ => by simp
  | cons space spaces ih =>
    have hfirst := h.evolves_freeIn handle space
    refine (hfirst.trans (ih hfirst.wellFormed)).congr fun _ e _ => ?_
    have hkey : e.key = ⟨space, handle⟩ ↔ e.handle = handle ∧ e.key.space = space := by
      rw [Entry.key, EntityKey.mk.injEq]
      exact and_comm
    by_cases hhandle : e.handle = handle
    · by_cases hspace : e.key.space = space
      · -- the rest of the spaces finds the entry as this one left it
        simp only [hkey, hhandle, hspace, and_self, if_true, List.mem_cons, true_or]
        cases hb : e.bereaved with
        | none => rfl
        | some x =>
          have hx := e.bereaved_bereaved
          rw [hb, Option.bind_some] at hx
          simp [hx]
      · simp [hkey, hspace, hhandle]
    · simp [hkey, hhandle]

/-- A handle may be known in several namespaces, and is bereaved in each. -/
theorem WellFormed.evolves_entityFreed (h : r.WellFormed) (handle : Handle) :
    Evolves (fun e => if e.handle = handle then e.bereaved else some e) none r
      (r.entityFreed handle) := by
  have hall := h.evolves_freeInAll handle IdSpace.all
  refine (hall.before hall.wellFormed.evolves_sweepIfDue).congr fun _ e _ => ?_
  have hspace : e.key.space ∈ IdSpace.all := by cases e.key.space <;> decide
  simp [hspace]

/-! ## Pins -/

/-- What a function that may refuse leaves. -/
def settle (r : Registry) (answer : Except CommandError Registry) : Registry :=
  answer.toOption.getD r

/-- Pinning is refused for what is not an object, dead or alive; the table stays then. -/
theorem WellFormed.evolves_disableCollection (h : r.WellFormed) (id : WireId) :
    Evolves (fun e => some (if e.id = id ∧ e.kind.isObject then e.pinned else e)) none r
      (r.settle (r.disableCollection id)) ∧
    (r.disableCollection id).map (fun _ => ()) =
      if (r.live? id).any (·.kind.isObject) then .ok ()
      else .error (.invalidId (.object .plain) id) := by
  cases hl : r.live? id with
  | none =>
    have hrefused : r.disableCollection id = .error (.invalidId (.object .plain) id) := by
      simp [disableCollection, hl]
    rw [hrefused]
    exact ⟨h.evolves_refl.congr fun i e he => by simp [h.ne_id_of_dead hl he], rfl⟩
  | some e =>
    unfold disableCollection
    rw [hl]
    obtain ⟨key, hkey, he⟩ := h.exists_key (live?_eq_some_iff.mp hl).1
    obtain rfl := h.id_of_live? hl
    simp only [hkey]
    split
    · next hobject =>
      refine ⟨?_, by simp [Except.map, hobject]⟩
      refine (h.evolves_of_live? he (x := e.pinned) rfl rfl rfl (fun x => some x.pinned)
        rfl).congr fun i y hy => ?_
      by_cases hye : y.id = e.id
      · simp [h.eq_of_id_eq he hy hye, hobject]
      · simp [hye]
    · next hobject =>
      refine ⟨?_, by simp [Except.map, hobject]⟩
      refine h.evolves_refl.congr fun i y hy => ?_
      by_cases hye : y.id = e.id
      · simp [h.eq_of_id_eq he hy hye, hobject]
      · simp [hye]

/-- Unpinning is refused for a living entry that is not an object, and else let pass. -/
theorem WellFormed.evolves_enableCollection (h : r.WellFormed) (id : WireId) :
    Evolves (fun e => if e.id = id ∧ e.kind.isObject then e.unpinned else some e) none r
      (r.settle (r.enableCollection id)) ∧
    (r.enableCollection id).map (fun _ => ()) =
      if (r.live? id).all (·.kind.isObject) then .ok ()
      else .error (.invalidId (.object .plain) id) := by
  cases hl : r.live? id with
  | none =>
    have hpassed : r.enableCollection id = .ok r := by simp [enableCollection, hl]
    rw [hpassed]
    exact ⟨h.evolves_refl.congr fun i e he => by simp [h.ne_id_of_dead hl he], rfl⟩
  | some e =>
    unfold enableCollection
    rw [hl]
    obtain ⟨key, hkey, he⟩ := h.exists_key (live?_eq_some_iff.mp hl).1
    have halive := (live?_eq_some_iff.mp hl).2
    obtain rfl := h.id_of_live? hl
    simp only [hkey]
    split
    · next hobject =>
      refine ⟨?_, by simp [Except.map, hobject]⟩
      have hupdate := h.evolves_update he (w := { e with pins := e.pins - 1 }) rfl rfl rfl
      have he' : (r.update key { e with pins := e.pins - 1 }).entryAt? key =
          some { e with pins := e.pins - 1 } := by rw [entryAt?_update he, if_pos rfl]
      simp only [settle, Except.toOption, Option.getD_some]
      split
      · next hgone =>
        have hdead := hupdate.wellFormed.evolves_markDead he' halive
        refine ((hupdate.trans hdead).before hdead.wellFormed.evolves_sweepIfDue).congr
          fun i y hy => ?_
        by_cases hye : y.id = e.id
        · simp [h.eq_of_id_eq he hy hye, hobject, Entry.unpinned, hgone]
        · simp [hye]
      · next hstays =>
        refine hupdate.congr fun i y hy => ?_
        by_cases hye : y.id = e.id
        · rw [h.eq_of_id_eq he hy hye]
          simp only [if_true, hobject, and_self, Entry.unpinned, if_neg hstays]
        · simp [hye]
    · next hobject =>
      refine ⟨?_, by simp [Except.map, hobject]⟩
      refine h.evolves_refl.congr fun i y hy => ?_
      by_cases hye : y.id = e.id
      · simp [h.eq_of_id_eq he hy hye, hobject]
      · simp [hye]

/-! ## In bulk -/

/-- Frames end together, and nothing else does. -/
theorem WellFormed.evolves_invalidateFrames (h : r.WellFormed) :
    Evolves (fun e => if e.kind = .frame then none else some e) none r r.invalidateFrames := by
  refine (h.evolves_releaseAll _).congr fun id e he => ?_
  have hmem : e.id ∈ r.idsWhere (fun x => x.kind = .frame) ↔ e.kind = .frame := by
    rw [h.mem_idsWhere, h.id_of_live? he, (live?_eq_some_iff.mp he).1]
    simp
  by_cases hframe : e.kind = .frame
  · rw [if_pos (hmem.mpr hframe), if_pos hframe]
  · rw [if_neg fun hm => hframe (hmem.mp hm), if_neg hframe]

/-- And the session ends every id. -/
theorem WellFormed.evolves_disposeAll (h : r.WellFormed) :
    Evolves (fun _ => none) none r r.disposeAll := by
  refine (h.evolves_releaseAll _).congr fun id e he => if_pos ?_
  obtain ⟨key, hkey, -⟩ := h.exists_key (live?_eq_some_iff.mp he).1
  rw [h.id_of_live? he]
  exact Std.TreeMap.mem_keys.mpr (Std.TreeMap.mem_iff_isSome_getElem?.mpr (by rw [hkey]; rfl))

end Registry
end DebugWire

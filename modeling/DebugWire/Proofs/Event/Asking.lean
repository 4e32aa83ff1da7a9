import DebugWire.Session.Report
import Mathlib.Algebra.Group.Nat.Defs
import Mathlib.Data.List.Forall2

/-!
# Proofs/Event/Asking — whom an event meets, and what asking leaves

A report asks the requests kind by kind.  Those of one kind come in the order of their ids
(`RequestTable.Group`), and asking one kind leaves the others as they were, so each group can be
read off the table as it was before (`groups_hitsOf`).

An answer counts only for the event that it was given to: a request that did not see the serial yet
passes an event on exactly if it is enabled and all its filters accept it
(`Request.ask_fst_of_fresh`).  Until the serials start over, none did (`Tidy.fresh`).
-/

namespace DebugWire

/-- No occurrence is offered to a kind of request twice. -/
theorem Occurrence.nodup_kinds (o : Occurrence) : o.kinds.Nodup := by
  cases o with
  | code spot event => cases event <;> simp [kinds, CodeEvent.kinds]
  | _ => simp [kinds]

/-! ## One request -/

namespace Request

/-- The request was not asked about the event yet. -/
def Fresh (s : Sighting) (r : Request) : Prop := ∀ answer, r.last ≠ some (s.serial, answer)

theorem answered?_of_fresh {s : Sighting} {r : Request} (h : r.Fresh s) : r.answered? s = none := by
  unfold answered?
  split
  · next serial answer hlast =>
    refine if_neg ?_
    rintro rfl
    exact h answer hlast
  · rfl

/-- **Who was not asked yet passes on what it is enabled for**, if all its filters accept it. -/
theorem ask_fst_of_fresh {s : Sighting} {r : Request} (h : r.Fresh s) (hkind : r.kind = s.kind) :
    (r.ask s).1 = true ↔ r.enabled ∧ ∀ m ∈ r.modifiers, m.accepts s := by
  unfold ask
  rw [answered?_of_fresh h]
  by_cases henabled : r.enabled
  · simp [henabled, hkind, Modifier.askAll_fst]
  · simp [henabled]

/-- Asking leaves the request as it was, or asks its filters. -/
theorem ask_snd_cases (r : Request) (s : Sighting) :
    (r.ask s).2 = r ∨ r.enabled = true ∧ (r.ask s).2 = { r with
      modifiers := (Modifier.askAll s r.modifiers).2
      last := some (s.serial, (Modifier.askAll s r.modifiers).1)
      enabled := !(Modifier.askAll s r.modifiers).2.any Modifier.isExhausted } := by
  unfold ask
  split
  · exact Or.inl rfl
  · split
    · next hasked => exact Or.inr ⟨hasked.1, rfl⟩
    · exact Or.inl rfl

/-- Whoever is asked remembers the event, or what it remembered before. -/
theorem last_ask (s : Sighting) (r : Request) :
    (r.ask s).2.last = r.last ∨ ∃ answer, (r.ask s).2.last = some (s.serial, answer) := by
  obtain hsame | ⟨-, hasked⟩ := r.ask_snd_cases s
  · exact Or.inl (congrArg last hsame)
  · exact Or.inr ⟨_, congrArg last hasked⟩

end Request

namespace RequestTable

variable {t : RequestTable} {s : Sighting}

/-! ## One kind -/

/-- Every request has the id under which it is installed. -/
def Keyed (t : RequestTable) : Prop :=
  ∀ (id : Int32) (r : Request), t.byId[id]? = some r → r.id = id

/-- An installed request is of the event's kind, and passes the event on. -/
structure Takes (t : RequestTable) (s : Sighting) (r : Request) : Prop where
  installed : t.byId[r.id]? = some r
  kind : r.kind = s.kind
  asked : (r.ask s).1 = true

/-- Those that an event of one kind meets. -/
structure Group (t : RequestTable) (s : Sighting) (hits : List Hit) : Prop where
  /-- Exactly the requests that pass the event on, or nobody in particular. -/
  mem_iff : ∀ hit, hit ∈ hits ↔ (∃ r, t.Takes s r ∧ hit = ⟨r.id, r.kind, r.policy⟩) ∨
    (hit = ⟨0, s.kind, .none⟩ ∧ s.kind.isUnsolicited ∧ ∀ r, ¬ t.Takes s r)
  /-- Each once, in the order of their ids. -/
  ascending : hits.Pairwise fun hit hit' => hit.request < hit'.request

/-- Who is met when one kind is asked. -/
theorem Keyed.mem_ask (hkeyed : t.Keyed) {h : Hit} :
    h ∈ (t.ask s).1 ↔ ∃ r, t.Takes s r ∧ h = ⟨r.id, r.kind, r.policy⟩ := by
  simp only [ask, List.mem_filterMap, Prod.exists]
  constructor
  · rintro ⟨id, r, hmem, hmet⟩
    have hinstalled := Std.TreeMap.mem_toList_iff_getElem?_eq_some.mp hmem
    obtain rfl := hkeyed id r hinstalled
    split at hmet
    · next htakes => exact ⟨r, ⟨hinstalled, htakes.1, htakes.2⟩, (Option.some.inj hmet).symm⟩
    · exact absurd hmet nofun
  · rintro ⟨r, htakes, rfl⟩
    exact ⟨r.id, r, Std.TreeMap.mem_toList_iff_getElem?_eq_some.mpr htakes.installed,
      if_pos ⟨htakes.kind, htakes.asked⟩⟩

/-- The ids ascend. -/
theorem Keyed.pairwise_ask (h : t.Keyed) (s : Sighting) :
    (t.ask s).1.Pairwise fun hit hit' => hit.request < hit'.request := by
  have hids : t.byId.toList.Pairwise fun a b => a.2.id < b.2.id := by
    refine Std.TreeMap.ordered_keys_toList.imp_of_mem fun {a b} ha hb hlt => ?_
    rw [h a.1 a.2 (Std.TreeMap.mem_toList_iff_getElem?_eq_some.mp ha),
      h b.1 b.2 (Std.TreeMap.mem_toList_iff_getElem?_eq_some.mp hb)]
    exact Std.compare_eq_lt.mp hlt
  refine hids.filterMap _ fun a b hlt hit hhit hit' hhit' => ?_
  obtain ⟨-, hhit⟩ := Option.ite_none_right_eq_some.mp hhit
  obtain ⟨-, hhit'⟩ := Option.ite_none_right_eq_some.mp hhit'
  rw [← Option.some.inj hhit, ← Option.some.inj hhit']
  exact hlt

/-- **Those that an event of one kind meets.** -/
theorem Keyed.group_hits (h : t.Keyed) (s : Sighting) (kind : EventKind) :
    t.Group { s with kind := kind } (t.hits s kind).1 := by
  have hmem (hit : Hit) := h.mem_ask (s := { s with kind := kind }) (h := hit)
  unfold hits
  simp only
  by_cases hnobody : (t.ask { s with kind := kind }).1 = []
  · have hnone : ∀ r, ¬ t.Takes { s with kind := kind } r := fun r htakes =>
      absurd ((hmem _).mpr ⟨r, htakes, rfl⟩) (hnobody ▸ List.not_mem_nil)
    rw [hnobody]
    by_cases hkind : kind.isUnsolicited
    · simp only [List.isEmpty_nil, hkind, and_self, if_true]
      exact ⟨fun hit => by simp [hnone, hkind], List.pairwise_singleton _ _⟩
    · rw [if_neg fun h => hkind h.2]
      exact ⟨fun hit => by simp [hnone, hkind], List.Pairwise.nil⟩
  · rw [if_neg fun hempty => hnobody (List.isEmpty_iff.mp hempty.1)]
    refine ⟨fun hit => ?_, h.pairwise_ask _⟩
    obtain ⟨met, hmet⟩ := List.exists_mem_of_ne_nil _ hnobody
    obtain ⟨r, htakes, -⟩ := (hmem met).mp hmet
    rw [hmem hit]
    exact ⟨Or.inl, fun hor => hor.resolve_right fun hnone => hnone.2.2 r htakes⟩

/-- Somebody is met if a request passes the event on, or if it is reported anyhow. -/
theorem Group.ne_nil_iff {hits : List Hit} (h : t.Group s hits) :
    hits ≠ [] ↔ (∃ r, t.Takes s r) ∨ s.kind.isUnsolicited := by
  constructor
  · intro hne
    obtain ⟨hit, hhit⟩ := List.exists_mem_of_ne_nil _ hne
    obtain ⟨r, htakes, -⟩ | ⟨-, hkind, -⟩ := (h.mem_iff hit).mp hhit
    · exact Or.inl ⟨r, htakes⟩
    · exact Or.inr hkind
  · intro hsome
    by_cases htakes : ∃ r, t.Takes s r
    · obtain ⟨r, hr⟩ := htakes
      exact List.ne_nil_of_mem ((h.mem_iff _).mpr (Or.inl ⟨r, hr, rfl⟩))
    · refine List.ne_nil_of_mem ((h.mem_iff ⟨0, s.kind, .none⟩).mpr (Or.inr ⟨rfl, ?_, ?_⟩))
      · exact hsome.resolve_left htakes
      · exact not_exists.mp htakes

/-- Who is met is of a kind that is asked. -/
theorem kind_of_mem_hits {kind : EventKind} {hit : Hit} (h : hit ∈ (t.hits s kind).1) :
    hit.kind = kind := by
  unfold hits at h
  simp only at h
  split at h
  · rw [List.mem_singleton.mp h]
  · obtain ⟨found, -, hmet⟩ := List.mem_filterMap.mp h
    obtain ⟨htakes, hsame⟩ := Option.ite_none_right_eq_some.mp hmet
    exact Option.some.inj hsame ▸ htakes.1

theorem kind_of_mem_hitsOf {kinds : List EventKind} {hit : Hit} (h : hit ∈ (t.hitsOf s kinds).1) :
    hit.kind ∈ kinds := by
  induction kinds generalizing t with
  | nil => exact absurd h List.not_mem_nil
  | cons kind kinds ih =>
    obtain hfirst | hrest := List.mem_append.mp h
    · exact List.mem_cons.mpr (Or.inl (kind_of_mem_hits hfirst))
    · exact List.mem_cons_of_mem kind (ih hrest)

/-! ## What asking leaves -/

/-- What becomes of a request when some kinds are asked. -/
def askedOf (s : Sighting) (kinds : List EventKind) (r : Request) : Request :=
  if r.kind ∈ kinds then (r.ask { s with kind := r.kind }).2 else r

@[simp] theorem id_askedOf (s : Sighting) (kinds : List EventKind) (r : Request) :
    (askedOf s kinds r).id = r.id := by
  unfold askedOf
  split
  · exact r.id_ask _
  · rfl

@[simp] theorem kind_askedOf (s : Sighting) (kinds : List EventKind) (r : Request) :
    (askedOf s kinds r).kind = r.kind := by
  unfold askedOf
  split
  · exact r.kind_ask _
  · rfl

theorem getElem?_hits (s : Sighting) (kind : EventKind) (id : Int32) :
    (t.hits s kind).2.byId[id]? = (t.byId[id]?).map (askedOf s [kind]) := by
  have hmap : (t.hits s kind).2.byId = t.byId.map fun _ r =>
      if r.kind = kind then (r.ask { s with kind := kind }).2 else r := rfl
  rw [hmap, Std.TreeMap.getElem?_map]
  congr 1
  funext r
  by_cases hkind : r.kind = kind
  · subst hkind
    simp [askedOf]
  · simp [askedOf, hkind]

/-- A kind that is not asked again keeps what it answered. -/
theorem askedOf_askedOf {s : Sighting} {kind : EventKind} {kinds : List EventKind}
    (h : kind ∉ kinds) (r : Request) :
    askedOf s kinds (askedOf s [kind] r) = askedOf s (kind :: kinds) r := by
  by_cases hkind : r.kind = kind
  · subst hkind
    rw [askedOf, kind_askedOf, if_neg h]
    simp [askedOf]
  · have hsame : askedOf s [kind] r = r := if_neg (by simpa using hkind)
    rw [hsame]
    simp [askedOf, hkind]

/-- **Asking some kinds** leaves all others as they were. -/
theorem getElem?_hitsOf {kinds : List EventKind} (hkinds : kinds.Nodup) (id : Int32) :
    (t.hitsOf s kinds).2.byId[id]? = (t.byId[id]?).map (askedOf s kinds) := by
  induction kinds generalizing t with
  | nil =>
    have hsame : askedOf s [] = fun r => r := funext fun r => if_neg List.not_mem_nil
    rw [hsame, Option.map_id']
    rfl
  | cons kind kinds ih =>
    obtain ⟨hkind, hkinds⟩ := List.nodup_cons.mp hkinds
    change (hitsOf s kinds (t.hits s kind).2).2.byId[id]? = _
    rw [ih hkinds, getElem?_hits, Option.map_map]
    exact congrArg (Option.map · t.byId[id]?) (funext (askedOf_askedOf hkind))

theorem Keyed.of_asked {t' : RequestTable} {kinds : List EventKind} (h : t.Keyed)
    (hasked : ∀ id : Int32, t'.byId[id]? = (t.byId[id]?).map (askedOf s kinds)) : t'.Keyed := by
  intro id r hr
  rw [hasked, Option.map_eq_some_iff] at hr
  obtain ⟨r', hr', rfl⟩ := hr
  rw [id_askedOf, h id r' hr']

/-! ## Several kinds -/

/-- Who passes an event on does so whichever other kinds were asked before. -/
theorem takes_hits_iff {kind kind' : EventKind} (hne : kind' ≠ kind) {r : Request} :
    (t.hits s kind).2.Takes { s with kind := kind' } r ↔ t.Takes { s with kind := kind' } r := by
  have hinstalled (hkind : r.kind = kind') :
      (t.hits s kind).2.byId[r.id]? = some r ↔ t.byId[r.id]? = some r := by
    rw [getElem?_hits, Option.map_eq_some_iff]
    have hsame : ∀ x : Request, x.kind = kind' → askedOf s [kind] x = x := fun x hx =>
      if_neg (by simpa [hx] using hne)
    constructor
    · rintro ⟨x, hx, hxr⟩
      have hxkind : x.kind = kind' := by rw [← kind_askedOf s [kind] x, hxr, hkind]
      rwa [← hxr, hsame x hxkind] at hx ⊢
    · exact fun hr => ⟨r, hr, hsame r hkind⟩
  exact ⟨fun h => ⟨(hinstalled h.kind).mp h.installed, h.kind, h.asked⟩,
    fun h => ⟨(hinstalled h.kind).mpr h.installed, h.kind, h.asked⟩⟩

theorem Group.of_hits {kind kind' : EventKind} (hne : kind' ≠ kind) {hits : List Hit}
    (h : (t.hits s kind).2.Group { s with kind := kind' } hits) :
    t.Group { s with kind := kind' } hits where
  mem_iff hit := by
    rw [h.mem_iff]
    simp only [takes_hits_iff hne]
  ascending := h.ascending

/-- **Those that an event meets**, kind by kind, each kind in the order of ids. -/
theorem groups_hitsOf {kinds : List EventKind} (h : t.Keyed) (hkinds : kinds.Nodup) :
    ∃ groups, (t.hitsOf s kinds).1 = groups.flatten ∧
      List.Forall₂ (fun kind hits => t.Group { s with kind := kind } hits) kinds groups := by
  induction kinds generalizing t with
  | nil => exact ⟨[], rfl, .nil⟩
  | cons kind kinds ih =>
    obtain ⟨hkind, hkinds⟩ := List.nodup_cons.mp hkinds
    have hkeyed : (t.hits s kind).2.Keyed := h.of_asked (getElem?_hits s kind)
    obtain ⟨groups, hflatten, hgroups⟩ := ih hkeyed hkinds
    refine ⟨(t.hits s kind).1 :: groups, congrArg ((t.hits s kind).1 ++ ·) hflatten, ?_⟩
    have hothers : ∀ kind' ∈ kinds, kind' ≠ kind := fun _ hmem => ne_of_mem_of_not_mem hmem hkind
    refine .cons (h.group_hits s kind) ?_
    exact ((List.forall₂_and_left _ _).mpr ⟨hothers, hgroups⟩).imp fun _ _ h => h.2.of_hits h.1

/-! ## Serials -/

/-- To ask takes no serial. -/
theorem nextSerial_hitsOf (s : Sighting) (kinds : List EventKind) (t : RequestTable) :
    (t.hitsOf s kinds).2.nextSerial = t.nextSerial := by
  induction kinds generalizing t with
  | nil => rfl
  | cons kind kinds ih => exact ih _

/-- A change of the table from outside a report. -/
inductive Edit (t : RequestTable) : RequestTable → Prop where
  | kept : Edit t t
  | set (kind : EventKind) (policy : SuspendPolicy) (modifiers : List Modifier) :
      Edit t (t.set kind policy modifiers).2
  | clear (kind : EventKind) (id : Int32) : Edit t (t.clear kind id).2
  | clearBreakpoints : Edit t t.clearBreakpoints.2
  | clearAll : Edit t t.clearAll

/-- What is installed was there before, or is new. -/
theorem Edit.installed {t' : RequestTable} (h : t.Edit t') {id : Int32} {r : Request}
    (hr : t'.byId[id]? = some r) : t.byId[id]? = some r ∨ r.id = id ∧ r.last = none := by
  cases h with
  | kept => exact Or.inl hr
  | set kind policy modifiers =>
    simp only [RequestTable.set, Std.TreeMap.getElem?_insert] at hr
    split at hr
    · next hid => exact Or.inr (Option.some.inj hr ▸ ⟨Std.LawfulEqOrd.eq_of_compare hid, rfl⟩)
    · exact Or.inl hr
  | clear kind id' =>
    unfold RequestTable.clear at hr
    split at hr
    · simp only [Std.TreeMap.getElem?_erase] at hr
      split at hr
      · exact absurd hr nofun
      · exact Or.inl hr
    · exact Or.inl hr
  | clearBreakpoints =>
    simp only [RequestTable.clearBreakpoints, Std.TreeMap.getElem?_filter',
      Option.filter_eq_some_iff] at hr
    exact Or.inl hr.1
  | clearAll => exact absurd hr (by simp [RequestTable.clearAll])

theorem Keyed.edit {t' : RequestTable} (h : t.Keyed) (hedit : t.Edit t') : t'.Keyed := by
  intro id r hr
  obtain hbefore | ⟨hid, -⟩ := hedit.installed hr
  · exact h id r hbefore
  · exact hid

theorem Edit.nextSerial {t' : RequestTable} (h : t.Edit t') : t'.nextSerial = t.nextSerial := by
  cases h with
  | clear kind id =>
    unfold RequestTable.clear
    split <;> rfl
  | _ => rfl

/-- So many serials were taken, and the requests remember none but these. -/
structure Tidy (n : Nat) (t : RequestTable) : Prop where
  keyed : t.Keyed
  next : t.nextSerial = UInt64.ofNat (n + 1)
  last : ∀ (id : Int32) (r : Request), t.byId[id]? = some r → ∀ serial answer,
    r.last = some (serial, answer) → ∃ k < n, serial = UInt64.ofNat (k + 1)

theorem tidy_empty : Tidy 0 empty where
  keyed id r hr := absurd hr (by simp [empty])
  next := rfl
  last id r hr := absurd hr (by simp [empty])

namespace Tidy

variable {n : Nat}

theorem edit {t' : RequestTable} (h : t.Tidy n) (hedit : t.Edit t') : t'.Tidy n where
  keyed := h.keyed.edit hedit
  next := hedit.nextSerial.trans h.next
  last id r hr serial answer hlast := by
    obtain hbefore | ⟨-, hnone⟩ := hedit.installed hr
    · exact h.last id r hbefore serial answer hlast
    · exact absurd (hnone.symm.trans hlast) nofun

/-- A serial is taken, and some kinds are asked about the event that it was taken for. -/
theorem asked {t' : RequestTable} {kinds : List EventKind} (h : t.Tidy n)
    (hnext : t'.nextSerial = t.nextSerial + 1) (hs : s.serial = t.nextSerial)
    (hasked : ∀ id : Int32, t'.byId[id]? = (t.byId[id]?).map (askedOf s kinds)) :
    t'.Tidy (n + 1) where
  keyed := h.keyed.of_asked hasked
  next := by
    rw [hnext, h.next, UInt64.ofNat_add (n + 1) 1]
    rfl
  last id r hr serial answer hlast := by
    rw [hasked, Option.map_eq_some_iff] at hr
    obtain ⟨r', hr', rfl⟩ := hr
    have hbefore (hsame : r'.last = some (serial, answer)) :
        ∃ k < n + 1, serial = UInt64.ofNat (k + 1) := by
      obtain ⟨k, hk, hserial⟩ := h.last id r' hr' serial answer hsame
      exact ⟨k, Nat.lt_succ_of_lt hk, hserial⟩
    unfold askedOf at hlast
    split at hlast
    · obtain hsame | ⟨answer', hnow⟩ := r'.last_ask { s with kind := r'.kind }
      · exact hbefore (hsame.symm.trans hlast)
      · rw [hnow] at hlast
        obtain ⟨rfl, -⟩ := Prod.mk.inj (Option.some.inj hlast)
        exact ⟨n, Nat.lt_succ_self n, hs.trans h.next⟩
    · exact hbefore hlast

/-- A serial is taken, and nobody is asked. -/
theorem takeSerial (h : t.Tidy n) : t.takeSerial.2.Tidy (n + 1) := by
  let s : Sighting := { serial := t.nextSerial, kind := .vmDeath }
  have hnobody : askedOf s [] = fun r => r := funext fun r => if_neg List.not_mem_nil
  have hasked (id : Int32) :
      t.takeSerial.2.byId[id]? = (t.byId[id]?).map (askedOf s []) := by
    rw [hnobody, Option.map_id']
    rfl
  exact h.asked rfl rfl hasked

/-- **The next serial is new to everyone**, as long as not all of them were taken. -/
theorem fresh (h : t.Tidy n) (hn : n < 2 ^ 64) (hs : s.serial = t.nextSerial) {id : Int32}
    {r : Request} (hr : t.byId[id]? = some r) : r.Fresh s := by
  intro answer hlast
  obtain ⟨k, hk, hserial⟩ := h.last id r hr s.serial answer hlast
  rw [hs, h.next] at hserial
  have hsame := congrArg UInt64.toNat hserial
  rw [UInt64.toNat_ofNat', UInt64.toNat_ofNat'] at hsame
  omega

end Tidy
end RequestTable
end DebugWire

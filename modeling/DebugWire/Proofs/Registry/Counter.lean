import DebugWire.Proofs.Registry.Invariant

/-!
# Proofs/Registry/Counter — no step gives a number back

`Later r s` says that `s` counts on from where `r` counted.  It holds of every function of the
registry with nothing assumed, so room at the end of a run is room all the way.
-/

namespace DebugWire.Registry

/-- `s` goes on counting where `r` stood. -/
structure Later (r s : Registry) : Prop where
  firstId : s.firstId = r.firstId
  issued : r.issued ≤ s.issued

variable {r s t : Registry}

@[refl] theorem Later.refl (r : Registry) : Later r r := ⟨rfl, Nat.le_refl _⟩

/-- So only the ends of a run need to be compared. -/
theorem Later.trans (hs : Later r s) (ht : Later s t) : Later r t :=
  ⟨ht.firstId.trans hs.firstId, Nat.le_trans hs.issued ht.issued⟩

/-- Room at the end is room before. -/
theorem HasRoom.of_later (hs : s.HasRoom) (h : Later r s) : r.HasRoom := by
  unfold HasRoom at *
  rw [h.firstId] at hs
  exact Nat.lt_of_le_of_lt (Nat.add_le_add_left h.issued _) hs

/-- **An id that was handed out stays handed out**, whatever becomes of what it named. -/
theorem Issued.of_later {id : WireId} (hid : r.Issued id) (h : Later r s) : s.Issued id :=
  hid.mono h.firstId h.issued

/-! ## Letting go -/

/-- What a release keeps, whether or not there was anything to release. -/
theorem release_counter (id : WireId) :
    (r.release id).firstId = r.firstId ∧ (r.release id).issued = r.issued := by
  unfold release
  split
  · exact ⟨rfl, rfl⟩
  split <;> exact ⟨rfl, rfl⟩

theorem later_release (id : WireId) : Later r (r.release id) :=
  ⟨(release_counter id).1, Nat.le_of_eq (release_counter id).2.symm⟩

/-- By induction on the ids, as `release` counts nothing. -/
theorem later_releaseAll (ids : List WireId) (r : Registry) : Later r (r.releaseAll ids) := by
  induction ids generalizing r with
  | nil => rfl
  | cons id ids ih => exact (later_release id).trans (ih _)

theorem later_sweepIfDue : Later r r.sweepIfDue := by
  unfold sweepIfDue
  split
  · exact later_releaseAll _ r
  · rfl

/-- An entry dies where it is; its number is not free again. -/
theorem later_markDead (key : SlotKey) : Later r (r.markDead key) := by
  unfold markDead
  split
  · rfl
  split
  · rfl
  · exact ⟨rfl, Nat.le_refl _⟩

theorem later_update (key : SlotKey) (e : Entry) : Later r (r.update key e) :=
  ⟨rfl, Nat.le_refl _⟩

theorem later_dispose (id : WireId) : Later r (r.dispose id) := by
  unfold dispose
  split
  · rfl
  · exact later_release id

theorem later_disposeObjects (id : WireId) (count : Nat) : Later r (r.disposeObjects id count) := by
  unfold disposeObjects
  split
  · rfl
  split
  · rfl
  split
  · rfl
  · simp only
    split
    · exact (later_update _ _).trans (later_release id)
    · exact later_update _ _

theorem later_freeIn (handle : Handle) (space : IdSpace) : Later r (r.freeIn handle space) := by
  unfold freeIn
  split
  · rfl
  split
  · rfl
  split
  · exact later_update _ _
  · exact later_markDead _

/-- One namespace after the other. -/
theorem later_freeInAll (handle : Handle) (spaces : List IdSpace) (r : Registry) :
    Later r (spaces.foldl (freeIn handle) r) := by
  induction spaces generalizing r with
  | nil => rfl
  | cons space spaces ih => exact (later_freeIn handle space).trans (ih _)

theorem later_entityFreed (handle : Handle) : Later r (r.entityFreed handle) :=
  (later_freeInAll handle IdSpace.all r).trans later_sweepIfDue

/-- A call that is refused answers no table, so only those that are not matter. -/
theorem later_of_disableCollection {id : WireId} (h : r.disableCollection id = .ok s) :
    Later r s := by
  unfold disableCollection at h
  split at h
  · split at h
    · obtain rfl := Except.ok.inj h
      exact later_update _ _
    · exact absurd h nofun
  · exact absurd h nofun

theorem later_of_enableCollection {id : WireId} (h : r.enableCollection id = .ok s) :
    Later r s := by
  unfold enableCollection at h
  split at h
  · split at h
    · obtain rfl := Except.ok.inj h
      split
      · exact ((later_update _ _).trans (later_markDead _)).trans later_sweepIfDue
      · exact later_update _ _
    · exact absurd h nofun
  · obtain rfl := Except.ok.inj h
    rfl

/-! ## Issuing -/

/-- The counter after an id was issued. -/
theorem issued_issue (r : Registry) (handle : Handle) (kind : EntityKind) (tag : Option TypeTag) :
    (r.issue handle kind tag).2.firstId = r.firstId ∧
      (r.issue handle kind tag).2.issued = r.issued + 1 := by
  change (r.enter _).firstId = r.firstId ∧ (r.enter _).issued = r.issued + 1
  rw [enter_eq]
  exact ⟨rfl, rfl⟩

/-- **The only step that counts on**, and by one. -/
theorem later_issue (handle : Handle) (kind : EntityKind) (tag : Option TypeTag) :
    Later r (r.issue handle kind tag).2 :=
  ⟨(issued_issue r handle kind tag).1,
    (issued_issue r handle kind tag).2 ▸ Nat.le_succ r.issued⟩

/-- An entity that is registered again costs no number. -/
theorem later_register (handle : Handle) (kind : EntityKind) :
    Later r (r.register handle kind).2 := by
  unfold register
  split
  · exact later_update _ _
  · exact later_sweepIfDue.trans (later_issue handle kind none)

/-- And neither does the absence of one. -/
theorem later_registerOptional (handle : Option Handle) (kind : EntityKind) :
    Later r (r.registerOptional handle kind).2 := by
  cases handle with
  | none => rfl
  | some handle => exact later_register handle kind

theorem later_registerTagged (handle : Handle) (tag : TypeTag) :
    Later r (r.registerTagged handle tag).2 := by
  unfold registerTagged
  split
  · exact later_update _ _
  · exact later_sweepIfDue.trans (later_issue handle .referenceType (some tag))

theorem later_knownType (handle : Handle) : Later r (r.knownType handle).2 := by
  unfold knownType
  split
  · exact later_update _ _
  · rfl

end DebugWire.Registry

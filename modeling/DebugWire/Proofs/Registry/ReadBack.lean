import DebugWire.Proofs.Bytes.Reading
import DebugWire.Proofs.Registry.Kinds
import DebugWire.Proofs.Registry.Lifecycle
import DebugWire.Proofs.Registry.Yield

/-!
# Proofs/Registry/ReadBack — values that come back later

A value is written under the kind that the target tells of it, and looked up under that kind when it
comes back.  What the table learns of the object in between does no harm: an entry that is still
there serves for all that it served for (`Entry.Serves.of_fate`).  So an id that resolves goes on
to resolve, as an entity of the same kind, until it ends (`WellFormed.resolve_run_iff`).

Hence a value is read back from the bytes that were written for it until the id in them ends
(`readBack_of_run`); when that is, the calls since then tell.
-/

namespace DebugWire

open Registry

/-- What satisfies a look-up is in the space that it looks in. -/
theorem EntityKind.space_of_accepts {expected known : EntityKind} (h : expected.accepts known) :
    IdSpace.of known = IdSpace.of expected := by
  unfold accepts at h
  split at h
  · cases known with
    | object k => rfl
    | _ => exact absurd h Bool.false_ne_true
  · rw [of_decide_eq_true h]

/-! ## Entries that are still there -/

/-- **Whatever call an entry survives, it serves as before.** -/
theorem Entry.Serves.of_fate {op : Operation} {e x : Entry} (h : op.fate e = some x) :
    e.Serves x := by
  by_cases hgrows : op.grows
  · obtain ⟨y, hy, hserves⟩ := Operation.serves_of_fate hgrows e
    rwa [Option.some.inj (h.symm.trans hy)]
  · cases op with
    | dispose id => exact Entry.of_ite (o := none) (.refl e) nofun h
    | disposeObjects id count =>
      refine Entry.of_ite (.refl e) (fun hx => ?_) h
      obtain ⟨-, hx⟩ := Option.ite_none_left_eq_some.mp hx
      exact Option.some.inj hx ▸ ⟨rfl, fun _ h => h, fun _ h => h⟩
    | entityFreed handle =>
      refine Entry.of_ite (.refl e) (fun hx => ?_) h
      obtain ⟨-, hx⟩ := Option.ite_none_right_eq_some.mp hx
      exact Option.some.inj hx ▸ ⟨rfl, fun _ h => h, fun _ h => h⟩
    | enableCollection id =>
      refine Entry.of_ite (.refl e) (fun hx => ?_) h
      obtain ⟨-, hx⟩ := Option.ite_none_left_eq_some.mp hx
      exact Option.some.inj hx ▸ ⟨rfl, fun _ h => h, fun _ h => h⟩
    | invalidateFrames => exact Entry.of_ite (o := none) (.refl e) nofun h
    | disposeAll => exact absurd h nofun
    | _ => exact absurd rfl hgrows

namespace Registry

variable {r s : Registry} {id : WireId} {handle : Handle} {kind expected : EntityKind} {e x : Entry}
  {ops : List Operation}

/-- **An entry that lives at both ends of a run** serves in the end as it did in the beginning. -/
theorem WellFormed.serves_run (h : r.WellFormed) (hroom : (r.run ops).HasRoom)
    (he : r.live? id = some e) (hx : (r.run ops).live? id = some x) : e.Serves x := by
  induction ops generalizing r e with
  | nil => rw [Option.some.inj (he.symm.trans hx)]
  | cons op ops ih =>
    have hroom' : (op.perform r).2.HasRoom := hroom.of_later (later_run ops _)
    have hwf := (follows_perform op).wellFormed h hroom'
    have hissued := (h.assigned_of_live? he).issued.of_later (later_perform op)
    -- no id comes back, so the entry was there after the first call
    obtain ⟨y, hy, -⟩ := (follows_run ops _).keeps hwf hroom id x hx hissued
    have hfate : op.fate e = some y := (h.live?_perform op hroom' he).symm.trans hy
    exact (Entry.Serves.of_fate hfate).trans (ih hwf hroom hy hx)

/-- **What resolves goes on to resolve**, as an entity of the same kind, while the id stands for
anything. -/
theorem WellFormed.resolve_run_iff (h : r.WellFormed) (hroom : (r.run ops).HasRoom)
    (hr : r.resolve id expected = .ok handle) :
    (r.run ops).resolve id expected = .ok handle ↔ (r.run ops).Resolves id handle := by
  obtain ⟨e, he, haccepts, hhandle⟩ := exists_of_resolve hr
  constructor
  · intro hlater
    obtain ⟨x, hx, -, rfl⟩ := exists_of_resolve hlater
    exact resolves_of_live? hx
  · intro hlater
    obtain ⟨x, hx, rfl⟩ := exists_of_resolves hlater
    exact resolve_of_live? hx ((h.serves_run hroom he hx).kind expected haccepts)

/-! ## Reading values -/

theorem run_readTagged (s : Registry) (w : WireValue) (p : Nat) (rest : Bytes) :
    s.readTagged.run ⟨p, w.tagged ++ rest⟩ = (s.fromWire w, ⟨p + w.tagged.length, rest⟩) := by
  rw [readTagged, Attempt.run_bind_of_ok (run_part (Read.reads_value w p rest)),
    Attempt.run_ofExcept]

theorem run_readUntagged (s : Registry) (w : WireValue) (p : Nat) (rest : Bytes) :
    (s.readUntagged w.tag).run ⟨p, w.payload ++ rest⟩ =
      (s.fromWire w, ⟨p + w.payload.length, rest⟩) := by
  rw [readUntagged, Attempt.run_bind_of_ok (run_part (Read.reads_readPayload w p rest)),
    Attempt.run_ofExcept]

/-- A reference is read back exactly if its id resolves as what it was written as. -/
theorem fromWire_reference_iff {k : ObjectKind} (hid : id ≠ .null) :
    s.fromWire (.object k id) = .ok (.reference (.object k) (some handle)) ↔
      s.resolve id (.object k) = .ok handle := by
  rw [fromWire, resolveOptional, if_neg hid]
  constructor
  · intro hread
    obtain ⟨found, hfound, hvalue⟩ := exists_of_map_eq_ok hread
    obtain ⟨x, hx, rfl⟩ := exists_of_map_eq_ok hfound
    rw [hx, Option.some.inj (TargetValue.reference.inj hvalue).2]
  · intro hresolve
    rw [hresolve]
    rfl

/-- What is written for a value is read back as that value once some more calls were made: with its
tag or without, wherever it stands, and to the last byte. -/
structure Recovers (r : Registry) (v : TargetValue) (after : List Operation) : Prop where
  tagged : ∀ p rest, ((r.tagged v).2.run after).readTagged.run ⟨p, (r.tagged v).1 ++ rest⟩ =
    (.ok v, ⟨p + (r.tagged v).1.length, rest⟩)
  untagged : ∀ p rest, (((r.untagged v).2.run after).readUntagged (r.toWire v).1.tag).run
      ⟨p, (r.untagged v).1 ++ rest⟩ =
    (.ok v, ⟨p + (r.untagged v).1.length, rest⟩)

theorem recovers_iff {v : TargetValue} {after : List Operation} :
    r.Recovers v after ↔ ((r.toWire v).2.run after).fromWire (r.toWire v).1 = .ok v := by
  constructor
  · intro h
    have hread := h.tagged 0 []
    exact congrArg Prod.fst ((run_readTagged _ (r.toWire v).1 0 []).symm.trans hread)
  · intro h
    refine ⟨fun p rest => ?_, fun p rest => ?_⟩
    · exact (run_readTagged _ (r.toWire v).1 p rest).trans (congrArg (·, _) h)
    · exact (run_readUntagged _ (r.toWire v).1 p rest).trans (congrArg (·, _) h)

/-- How long what is written for a value is read back. -/
structure ReadBack (r : Registry) (v : TargetValue) (after : List Operation) : Prop where
  now : r.Recovers v []
  /-- What refers to nothing is always read back. -/
  always : (∀ kind handle, v ≠ .reference kind (some handle)) → r.Recovers v after
  /-- What refers to an entity is read back until its id ends. -/
  lasting : ∀ k handle, v = .reference (.object k) (some handle) →
    ∃ id e, (r.toWire v).1 = .object k id ∧ (r.toWire v).2.live? id = some e ∧
      e.handle = handle ∧
      (r.Recovers v after ↔ (((r.toWire v).2.history after).foldl
        (Standing.next id handle (.object k)) e.standing).ended = false)

/-- Tables that say of objects what they are read values back. -/
theorem Uniform.readBack {kinds : Handle → ObjectKind} (h : r.Uniform kinds) {v : TargetValue}
    (hv : v.Suits kinds) {after : List Operation} (hroom : ((r.toWire v).2.run after).HasRoom) :
    r.ReadBack v after := by
  have hroom' : (r.toWire v).2.HasRoom := hroom.of_later (later_run after _)
  have hback := h.fromWire_toWire hv hroom'
  refine ⟨recovers_iff.mpr hback, fun hnone => recovers_iff.mpr ?_, ?_⟩
  · cases hv with
    | primitive p => rfl
    | @reference k handle hkind =>
      cases handle with
      | none => rfl
      | some handle => exact absurd rfl (hnone _ handle)
  · rintro k handle rfl
    have hwire : (r.toWire (.reference (.object k) (some handle))).1 =
        .object k (r.register handle (.object k)).1 := rfl
    have hresolve : (r.register handle (.object k)).2.resolve (r.register handle (.object k)).1
        (.object k) = .ok handle := by
      cases hv with
      | reference hkind => exact h.resolve_register (hkind handle rfl) hroom'
    obtain ⟨e, he, haccepts, rfl⟩ := exists_of_resolve hresolve
    have hwf := (h.wellFormed.evolves_register e.handle (.object k) hroom').1.wellFormed
    have hkey : e.key = ⟨IdSpace.of (.object k), e.handle⟩ := by
      rw [← EntityKind.space_of_accepts haccepts]
      rfl
    refine ⟨_, e, hwire, he, rfl, ?_⟩
    have hstands := (hwf.stands_of_live? he hkey).run after hroom
    have hnull := hwf.id_ne_null (live?_eq_some_iff.mp he).1
    rw [recovers_iff, hwire, fromWire_reference_iff hnull]
    exact (hwf.resolve_run_iff hroom hresolve).trans hstands.resolves_iff

/-- **A value is read back until the id that was written for it ends**, in every run where each
handle is registered as the one sort of object that it is, or as a plain one. -/
theorem readBack_of_run {kinds : Handle → ObjectKind} (firstId : UInt64) (threshold : Nat)
    {before after : List Operation} {v : TargetValue}
    (hbefore : ∀ op ∈ before, op.Truthful kinds) (hv : v.Suits kinds)
    (hroom : ((new firstId threshold).run (before ++ .toWire v :: after)).HasRoom) :
    ((new firstId threshold).run before).ReadBack v after := by
  rw [run_append, run_cons] at hroom
  have hroom' := hroom.of_later ((later_perform (.toWire v)).trans (later_run after _))
  exact ((uniform_new firstId threshold).run hbefore hroom').readBack hv hroom

/-- A string that was taken for a plain object first: it is read back as a string though the target
lost it, as long as it is pinned. -/
theorem readBack_of_pinned :
    ((new 1 1).run [.register ⟨10⟩ (.object .plain)]).Recovers
      (.reference (.object .string) (some ⟨10⟩))
      [.disableCollection ⟨1⟩, .register ⟨10⟩ (.object .plain), .entityFreed ⟨10⟩] ∧
    ¬ ((new 1 1).run [.register ⟨10⟩ (.object .plain)]).Recovers
      (.reference (.object .string) (some ⟨10⟩))
      [.disableCollection ⟨1⟩, .register ⟨10⟩ (.object .plain), .entityFreed ⟨10⟩,
        .enableCollection ⟨1⟩] := by
  have hbefore : ∀ op ∈ [Operation.register ⟨10⟩ (.object .plain)],
      op.Truthful fun _ => ObjectKind.string :=
    List.forall_mem_singleton.mpr (.of_subject rfl .plain)
  have hstring : (TargetValue.reference (.object .string) (some ⟨10⟩)).Suits
      fun _ => ObjectKind.string :=
    .reference fun _ _ _ hk => Or.inr (EntityKind.object.inj hk).symm
  constructor
  · have hread : ReadBack _ _ [.disableCollection ⟨1⟩, .register ⟨10⟩ (.object .plain),
        .entityFreed ⟨10⟩] :=
      readBack_of_run 1 1 hbefore hstring (by decide)
    obtain ⟨id, e, hid, he, -, hiff⟩ := hread.lasting _ _ rfl
    cases hid
    cases he
    exact hiff.mpr (by decide)
  · have hread : ReadBack _ _ [.disableCollection ⟨1⟩, .register ⟨10⟩ (.object .plain),
        .entityFreed ⟨10⟩, .enableCollection ⟨1⟩] :=
      readBack_of_run 1 1 hbefore hstring (by decide)
    obtain ⟨id, e, hid, he, -, hiff⟩ := hread.lasting _ _ rfl
    cases hid
    cases he
    exact fun hrecovers => absurd (hiff.mp hrecovers) (by decide)

end Registry
end DebugWire

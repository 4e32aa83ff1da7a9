import DebugWire.Proofs.Registry.Position
import DebugWire.Proofs.Session.Answers
import DebugWire.Target.InMemory

/-!
# Proofs/Session/Position — positions out, and in again

A command writes a position with what the target tells of a method (`run_position`).  It is read as
that method and its declaring type until one of the two ids ends (`Backend.readsBack_of_written`).

The other way round there is a gap.  A position is read without a look at whether the type declares
the method, so what is read is written again as it was exactly if it does
(`Backend.position_again_iff`); a position of two ids that do not belong together is taken
(`Backend.stray_position`).
-/

namespace DebugWire

namespace Action

variable {σ : Type} [Target σ] {method : Handle} {c : Call σ}

/-- What the target tells of a method. -/
def toldMethod (method : Handle) (t : σ) : Except TargetError MemberFacts :=
  ((Target.methodFacts method : TargetCall σ MemberFacts).run t).1

/-- A position in a method that the target does not tell of is not written. -/
theorem run_position_of_error {e : TargetError}
    (he : toldMethod method c.backend.target = .error e) (index : UInt64) :
    ((position method index : Action σ Bytes).run c).1 = .error (.ofTarget e) := by
  unfold toldMethod at he
  rcases htold : (Target.methodFacts method : TargetCall σ MemberFacts).run c.backend.target with
    ⟨_ | _, t⟩ <;> rw [htold] at he <;> cases he
  simp [position, place, call, Attempt.run_bind, htold]

/-- The registry makes the position of what the target tells. -/
theorem run_position {facts : MemberFacts}
    (hfacts : toldMethod method c.backend.target = .ok facts) (index : UInt64) :
    ∃ told, ((position method index : Action σ Bytes).run c).1 =
        ((c.backend.registry.toPosition facts.declaringType told method index).1.map
          Bytes.ofPosition).mapError .ofTarget ∧
      ((position method index : Action σ Bytes).run c).2.backend.registry =
        (c.backend.registry.toPosition facts.declaringType told method index).2 := by
  unfold toldMethod at hfacts
  rcases htold : (Target.methodFacts method : TargetCall σ MemberFacts).run c.backend.target with
    ⟨_ | _, t⟩ <;> rw [htold] at hfacts <;> cases hfacts
  let c' : Call σ := { c with backend := { c.backend with target := t } }
  have hcall : (call (Target.methodFacts method) : Action σ MemberFacts).run c =
      (.ok facts, c') := by
    rw [call, Attempt.run_within, htold]
    rfl
  obtain ⟨hanswer, hregistry⟩ := run_typeRef facts.declaringType c'
  refine ⟨toldTag facts.declaringType t, ?_⟩
  rw [position, Attempt.run_map, place, Attempt.run_bind_of_ok hcall, Attempt.run_bind,
    Registry.toPosition]
  rcases hrun : (typeRef facts.declaringType : Action σ TypeRef).run c' with ⟨answer, d⟩
  rw [hrun] at hanswer hregistry
  change answer = (c.backend.registry.registerType _ (toldTag _ t)).1.mapError _ at hanswer
  change d.backend.registry = (c.backend.registry.registerType _ (toldTag _ t)).2 at hregistry
  rcases htyped : c.backend.registry.registerType facts.declaringType
    (toldTag facts.declaringType t) with ⟨refusal | t', r⟩ <;> rw [htyped] at hanswer hregistry <;>
    subst hanswer hregistry
  · exact ⟨rfl, rfl⟩
  · simp [registry, Body.bytes_ofPosition]

/-- Write a position behind what was written so far. -/
def writePosition (method : Handle) (index : UInt64) :
    Attempt CommandError (Call σ × Bytes) Unit := do
  let bytes ← Attempt.within Prod.fst (fun c s => (c, s.2)) id (position method index)
  modify fun s => (s.1, s.2 ++ bytes)

theorem run_writePosition (method : Handle) (index : UInt64) (c : Call σ) (written : Bytes) :
    (writePosition method index : Attempt CommandError (Call σ × Bytes) Unit).run (c, written) =
      match (position method index : Action σ Bytes).run c with
      | (.ok bytes, d) => (.ok (), d, written ++ bytes)
      | (.error e, d) => (.error e, d, written) := by
  rw [writePosition, Attempt.run_bind, Attempt.run_within]
  rcases (position method index : Action σ Bytes).run c with ⟨_ | _, d⟩ <;> rfl

end Action

namespace Backend

open DebugWire.Action Registry

variable {σ : Type} [Target σ] {b : Backend σ}

/-- **A position that was written is read back** in whatever table came of calls, until one of its
two ids ends.  Where writing fails, nothing is written. -/
theorem readsBack_of_written (hb : b.registry.Reachable)
    (method : Handle) (index : UInt64) (cursor : Cursor) (written : Bytes) :
    (∀ c out, (writePosition method index).run (⟨b, cursor⟩, written) = (.ok (), c, out) →
      ∃ facts bytes w, toldMethod method b.target = .ok facts ∧ out = written ++ bytes ∧
        c.backend.registry.ReadsBack method index facts.declaringType bytes w) ∧
    ∀ e c out, (writePosition method index).run (⟨b, cursor⟩, written) = (.error e, c, out) →
      out = written := by
  simp only [run_writePosition]
  rcases hrun : (position method index : Action σ Bytes).run ⟨b, cursor⟩ with ⟨e | bytes, d⟩
  · refine ⟨fun c out h => absurd (Prod.mk.inj h).1 nofun, fun e' c out h => ?_⟩
    obtain ⟨-, -, rfl⟩ := h
    rfl
  · refine ⟨fun c out h => ?_, fun e c out h => absurd (Prod.mk.inj h).1 nofun⟩
    obtain ⟨-, rfl, rfl⟩ := h
    have hanswer := congrArg Prod.fst hrun
    cases hfacts : toldMethod method b.target with
    | error e =>
      rw [run_position_of_error (c := ⟨b, cursor⟩) hfacts index] at hanswer
      exact absurd hanswer nofun
    | ok facts =>
      obtain ⟨told, hposition, hregistry⟩ := run_position (c := ⟨b, cursor⟩) hfacts index
      rw [hposition] at hanswer
      obtain ⟨w, hw, rfl⟩ := exists_of_map_eq_ok (Attempt.mapError_eq_ok_iff.mp hanswer)
      rw [hrun] at hregistry
      rw [hregistry]
      exact ⟨facts, _, w, rfl, rfl, hb.readsBack_toPosition hw⟩

open InMemory in
/-- Two types, the first one with a method. -/
def twoTypes : InMemory :=
  let build : StateM InMemory Unit := do
    let _ ← addMethod (← addClass "LFirst;") "run" "()V"
    let _ ← addClass "LSecond;"
  (build.run InMemory.new).2

/-- A backend over them, after some calls of the registry. -/
def withTwoTypes (calls : List Operation) : Backend InMemory where
  settings := {}
  target := twoTypes
  registry := (Registry.new 1 16).run calls
  requests := .empty
  suspension := .none
  disposed := false
  nextPacketId := 1
  queue := []
  outlet := .free

/-- The type had an id without a tag.  What was written for its method is read though another type
ends, and no longer once the method does. -/
theorem readsBack_until_freed : ∃ c out w,
    (writePosition ⟨2⟩ 12).run (⟨withTwoTypes [.register ⟨1⟩ .referenceType], .start []⟩, [9]) =
      (.ok (), c, out) ∧ out = 9 :: Bytes.ofPosition w ∧
    (c.backend.registry.run [.entityFreed ⟨3⟩]).readPosition.run ⟨1, Bytes.ofPosition w ++ []⟩ =
      (.ok ⟨w, ⟨1⟩, ⟨2⟩⟩, ⟨26, []⟩) ∧
    (c.backend.registry.run [.entityFreed ⟨2⟩]).readPosition.run ⟨1, Bytes.ofPosition w ++ []⟩ ≠
      (.ok ⟨w, ⟨1⟩, ⟨2⟩⟩, ⟨26, []⟩) := by
  have hrun : (writePosition ⟨2⟩ 12).run
      (⟨withTwoTypes [.register ⟨1⟩ .referenceType], .start []⟩, [9]) = (.ok (), _, _) := rfl
  obtain ⟨facts, bytes, w, hfacts, hout, hback⟩ :=
    (readsBack_of_written ⟨1, 16, [.register ⟨1⟩ .referenceType], rfl⟩ ⟨2⟩ 12 (.start []) [9]).1
      _ _ hrun
  obtain rfl := hback.written
  cases hfacts
  refine ⟨_, _, w, hrun, hout, (hback.lasting _ (by decide) 1 []).mpr ?_, fun hread => ?_⟩
  · exact List.forall_mem_singleton.mpr ⟨rfl, rfl⟩
  · have hends := List.forall_mem_singleton.mp ((hback.lasting _ (by decide) 1 []).mp hread)
    exact absurd hends.2 nofun

/-- **What is read is written again as it was exactly if the type declares the method.** -/
theorem position_again_iff (hb : b.registry.Reachable)
    {bytes : Bytes} (hlength : bytes.length = 25) {place : CodePosition} {d : Cursor}
    (hread : b.registry.readPosition.run (.start bytes) = (.ok place, d)) {facts : MemberFacts}
    (hfacts : toldMethod place.method b.target = .ok facts) (cursor : Cursor)
    (hroom : ((position place.method place.wire.index).run
      ⟨b, cursor⟩).2.backend.registry.HasRoom) :
    ((position place.method place.wire.index).run ⟨b, cursor⟩).1 = .ok bytes ↔
      place.declaringType = facts.declaringType := by
  obtain ⟨told, hposition, hregistry⟩ :=
    run_position (c := ⟨b, cursor⟩) hfacts place.wire.index
  rw [hregistry] at hroom
  rw [hposition, Attempt.mapError_eq_ok_iff]
  have hwf := hb.wellFormed (hroom.of_later (later_toPosition _ _ _ _ _))
  have hread' : b.registry.readPosition.run ⟨0, bytes ++ []⟩ = (.ok place, d) := by
    rwa [List.append_nil]
  obtain ⟨rfl, -, hbears⟩ := (run_readPosition_eq_ok_iff hlength).mp hread'
  constructor
  · intro hagain
    obtain ⟨w, hw, hsame⟩ := exists_of_map_eq_ok hagain
    have hbears' := hwf.bears_toPosition hw hroom
    obtain rfl : place.wire = w := ofPosition_inj hsame.symm
    have htype := (hbears.extend (hwf.extends_toPosition hroom)).type
    exact (Prod.mk.inj (Except.ok.inj (htype.symm.trans hbears'.type))).1
  · intro hdeclares
    rw [← hdeclares] at hroom ⊢
    rw [hwf.toPosition_of_bears hbears hroom]
    rfl

/-- Both types and the method have ids. -/
def knownTypes : Backend InMemory :=
  withTwoTypes [.registerTagged ⟨1⟩ .classType, .registerTagged ⟨3⟩ .classType,
    .register ⟨2⟩ .method]

/-- The method with the id of its type is written again as it was read. -/
theorem position_again : ∃ place, knownTypes.registry.readPosition.run
      (.start (Bytes.ofPosition ⟨.classType, ⟨1⟩, ⟨3⟩, 12⟩)) = (.ok place, ⟨25, []⟩) ∧
    ((position place.method place.wire.index).run ⟨knownTypes, .start []⟩).1 =
      .ok (Bytes.ofPosition ⟨.classType, ⟨1⟩, ⟨3⟩, 12⟩) := by
  have hread : knownTypes.registry.readPosition.run
      (.start (Bytes.ofPosition ⟨.classType, ⟨1⟩, ⟨3⟩, 12⟩)) = (.ok _, ⟨25, []⟩) := rfl
  exact ⟨_, hread,
    (position_again_iff ⟨1, 16, _, rfl⟩ rfl hread rfl (.start []) (by decide)).mpr rfl⟩

/-- **A position in a method that the type does not declare is read**, and written again as
another. -/
theorem stray_position : ∃ place facts again, knownTypes.registry.readPosition.run
      (.start (Bytes.ofPosition ⟨.classType, ⟨2⟩, ⟨3⟩, 12⟩)) = (.ok place, ⟨25, []⟩) ∧
    toldMethod place.method knownTypes.target = .ok facts ∧
    place.declaringType ≠ facts.declaringType ∧
    ((position place.method place.wire.index).run ⟨knownTypes, .start []⟩).1 = .ok again ∧
    again ≠ Bytes.ofPosition ⟨.classType, ⟨2⟩, ⟨3⟩, 12⟩ :=
  ⟨_, _, _, rfl, rfl, by decide, rfl, by decide⟩

end Backend
end DebugWire

import DebugWire.Proofs.Session.Course

/-!
# Proofs/Session/Failure — what a command that fails has done

A command reads its payload, asks the target, and then changes the session.  One that fails for a
reason it cannot meet any more once it changes something has changed nothing but the target
(`Undone`).  So a malformed payload is refused before anything happens, but for `disposeObjects`,
which takes back each reference as it reads it (`run_of_malformed`).  Some commands ask the target
between two ids; these are the ones that a failing target can stop halfway (`Command.asksBetween`).
-/

namespace DebugWire

variable {α β σ : Type}

namespace Action

/-- A step that does not fail for a reason of a sort. -/
def Sure (P : CommandError → Prop) (x : Action σ α) : Prop :=
  ∀ c e, (x.run c).1 = .error e → ¬ P e

/-- A step that has changed nothing but the target where it fails for a reason of a sort. -/
def Undone (P : CommandError → Prop) (x : Action σ α) : Prop :=
  ∀ c e, (x.run c).1 = .error e → P e →
    (x.run c).2.backend = { c.backend with target := (x.run c).2.backend.target }

variable {P : CommandError → Prop}

namespace Sure

/-- A result is no failure. -/
theorem pure (a : α) : Sure P (Pure.pure a : Action σ α) := fun _ _ h => nomatch h

/-- Neither step may fail for that reason. -/
theorem bind {x : Action σ α} {f : α → Action σ β} (hx : Sure P x) (hf : ∀ a, Sure P (f a)) :
    Sure P (x >>= f) := by
  intro c e
  rw [Attempt.run_bind]
  have hfirst := hx c e
  split
  · next a d hrun => exact hf a d e
  · next e' d hrun =>
    intro h
    rw [hrun] at hfirst
    exact hfirst (congrArg _ (Except.error.inj h))

theorem map {x : Action σ α} (hx : Sure P x) (f : α → β) : Sure P (f <$> x) := by
  intro c e h
  rw [Attempt.run_map] at h
  cases hrun : (x.run c).1 with
  | error e' =>
    rw [hrun] at h
    obtain rfl : e' = e := Except.error.inj h
    exact hx c e' hrun
  | ok a =>
    rw [hrun] at h
    cases h

/-- The table refuses nothing here: what may be refused is looked up first. -/
theorem registry (f : Registry → α × Registry) : Sure P (registry f : Action σ α) :=
  fun _ _ h => nomatch h

theorem edit (f : Backend σ → Backend σ) : Sure P (edit f) := fun _ _ h => nomatch h

theorem backend : Sure P (backend : Action σ (Backend σ)) := fun _ _ h => nomatch h

/-- **A question to the target fails as the target fails**, so it is sure where such reasons are
left out. -/
theorem call (hP : ∀ e, ¬ P (.ofTarget e)) (x : TargetCall σ α) : Sure P (call x) := by
  intro c e h
  rw [Action.call, Attempt.run_within] at h
  cases hcall : (x.run c.backend.target).1 with
  | error e' =>
    rw [hcall] at h
    obtain rfl : CommandError.ofTarget e' = e := Except.error.inj h
    exact hP e'
  | ok a =>
    rw [hcall] at h
    cases h

theorem ite {p : Prop} [Decidable p] {x y : Action σ α} (hx : Sure P x) (hy : Sure P y) :
    Sure P (if p then x else y) := by
  split
  · exact hx
  · exact hy

/-- By induction on the items; one that fails would end the list. -/
theorem mapM {f : α → Action σ β} (hf : ∀ a, Sure P (f a)) : ∀ xs : List α, Sure P (xs.mapM f)
  | [] => pure _
  | x :: xs => by
      rw [List.mapM_cons]
      exact (hf x).bind fun _ => (mapM hf xs).bind fun _ => pure _

theorem list {item : α → Action σ Body} (h : ∀ a, Sure P (item a)) (xs : List α) :
    Sure P (list xs item) := (mapM h xs).bind fun _ => pure _

end Sure

namespace Undone

/-- A step that changes nothing may fail for any reason. -/
theorem of_quiet {x : Action σ α} (hx : Quiet x) : Undone P x := fun c _ _ _ => hx c

/-- A step that does not fail for that reason may change anything. -/
theorem of_sure {x : Action σ α} (hx : Sure P x) : Undone P x :=
  fun c e h he => absurd he (hx c e h)

/-- After a step that changes nothing. -/
theorem after {x : Action σ α} {f : α → Action σ β} (hx : Quiet x) (hf : ∀ a, Undone P (f a)) :
    Undone P (x >>= f) := by
  intro c e
  rw [Attempt.run_bind]
  have hbackend := hx c
  split
  · next a d hrun =>
    intro h he
    rw [hrun] at hbackend
    rw [hf a d e h he, hbackend]
  · next e' d hrun =>
    rw [hrun] at hbackend
    exact fun _ _ => hbackend

/-- In front of a step that does not fail. -/
theorem before {x : Action σ α} {f : α → Action σ β} (hx : Undone P x) (hf : ∀ a, Sure P (f a)) :
    Undone P (x >>= f) := by
  intro c e
  rw [Attempt.run_bind]
  have hfirst := hx c e
  split
  · next a d hrun => exact fun h he => absurd he (hf a d e h)
  · next e' d hrun =>
    intro h
    rw [hrun] at hfirst
    exact hfirst (congrArg _ (Except.error.inj h))

/-- What becomes of the result cannot fail. -/
theorem map {x : Action σ α} (hx : Undone P x) (f : α → β) : Undone P (f <$> x) := by
  rw [map_eq_pure_bind]
  exact hx.before fun _ => .pure _

/-- A step that is refused under a condition. -/
theorem guard {p : Prop} [Decidable p] {e : CommandError} {rest : Action σ α}
    (hrest : Undone P rest) :
    Undone P (if p then (MonadExcept.throw e : Action σ PUnit) >>= fun _ => rest else rest) := by
  split
  · exact .after (.throw e) fun _ => hrest
  · exact hrest

/-- A call that is refused leaves the table as it found it. -/
theorem tryRegistry (f : Registry → Except CommandError Registry) :
    Undone P (tryRegistry f : Action σ Unit) :=
  .after (.lookUp f) fun _ => .of_sure (.registry _)

end Undone

/-! ## Ids out -/

/-- Handing out an id never fails. -/
theorem sure_idOf (handle : Handle) (kind : EntityKind) :
    Sure P (idOf handle kind : Action σ Body) := (Sure.registry _).map _

theorem sure_idOf? (handle : Option Handle) (kind : EntityKind) :
    Sure P (idOf? handle kind : Action σ Body) := (Sure.registry _).map _

/-- Nor does writing a value, as the target has already told it. -/
theorem sure_tagged (v : TargetValue) : Sure P (tagged v : Action σ Body) :=
  (Sure.registry _).map _

theorem sure_untagged (v : TargetValue) : Sure P (untagged v : Action σ Body) :=
  (Sure.registry _).map _

variable [Target σ]

/-- **Only a type that is not known yet is asked for its tag.** -/
theorem sure_typeRef (hP : ∀ e, ¬ P (.ofTarget e)) (type : Handle) :
    Sure P (typeRef type : Action σ TypeRef) := by
  refine (Sure.registry _).bind fun known => ?_
  cases known with
  | some t => exact .pure t
  | none => exact (Sure.call hP _).bind fun _ => .registry _

/-- A place asks for the facts of its method, and perhaps for the tag of its type. -/
theorem sure_place (hP : ∀ e, ¬ P (.ofTarget e)) (method : Handle) (index : UInt64) :
    Sure P (place method index : Action σ Body) :=
  (Sure.call hP _).bind fun _ => (sure_typeRef hP _).bind fun _ => (Sure.registry _).bind fun _ =>
    .pure _

end Action

/-! ## Each command -/

/-- Whether the command asks the target between handing out two ids. -/
def Command.asksBetween : Command → Bool
  | .allClasses | .fields | .methods | .superclass | .objectType | .fieldValues | .frames
  | .frameValues | .reflectedType => true
  | _ => false

namespace Answer

open DebugWire.Action

variable {P : CommandError → Prop}

/-! ## What needs no target -/

/-- The id is read before the table is asked. -/
theorem undone_disableCollection : Undone P (disableCollection : Action σ Bytes) :=
  .after (.read _) fun _ => (Undone.tryRegistry _).before fun _ => .pure _

theorem undone_enableCollection : Undone P (enableCollection : Action σ Bytes) :=
  .after (.read _) fun _ => (Undone.tryRegistry _).before fun _ => .pure _

/-- Once the thread is resolved, nothing can fail any more. -/
theorem undone_suspendThread : Undone P (suspendThread : Action σ Bytes) :=
  .after (quiet_entity _) fun _ => .of_sure ((Sure.edit _).bind fun _ => .pure _)

/-- The same holds here, and the frames are forgotten without a way to fail. -/
theorem undone_resumeThread : Undone P (resumeThread : Action σ Bytes) := by
  refine .after (quiet_entity _) fun thread => .of_sure ((Sure.edit _).bind fun _ => ?_)
  refine (Sure.backend.bind fun _ => .pure _).bind fun suspended => ?_
  exact .ite ((Sure.registry _).bind fun _ => .pure _) (.pure _)

/-- The requests are changed, and nothing about that can be refused. -/
theorem sure_onRequests {γ : Type} (f : RequestTable → γ × RequestTable) :
    Sure P (onRequests f : Action σ γ) := fun _ _ h => nomatch h

/-- **A request is decoded as a whole before it is installed.** -/
theorem undone_setRequest : Undone P (setRequest : Action σ Bytes) := by
  refine .after quiet_eventKind fun kind => .after quiet_suspendPolicy fun policy => ?_
  refine .after (.read _) fun n => .after (.times (.decode _) n) fun modifiers => ?_
  exact .of_sure ((sure_onRequests _).map _)

theorem undone_clearRequest : Undone P (clearRequest : Action σ Bytes) :=
  .after quiet_eventKind fun _ => .after (.read _) fun _ =>
    .of_sure ((sure_onRequests _).bind fun _ => .pure _)

/-- A member is asked for before its id, so it fails only with the target. -/
theorem sure_member (hP : ∀ e, ¬ P (.ofTarget e)) (kind : EntityKind)
    (facts : Handle → TargetCall σ MemberFacts) (h : Handle) : Sure P (member kind facts h) :=
  (Sure.call hP _).bind fun _ => (sure_idOf h kind).bind fun _ => .pure _

variable [Target σ]

/-! ## Types -/

/-- No hypothesis about the target: every type is asked before the first id. -/
theorem undone_classesBySignature : Undone P (classesBySignature : Action σ Body) := by
  refine .after (.read _) fun signature => .after (.call _) fun types => ?_
  refine .after (.mapM (fun _ => (Quiet.call _).bind fun _ => .pure _) _) fun classes => ?_
  exact .of_sure (.list (fun _ => (Sure.registry _).bind fun _ => .pure _) _)

/-- Unlike `undone_classesBySignature`, this asks between two ids. -/
theorem undone_allClasses (hP : ∀ e, ¬ P (.ofTarget e)) :
    Undone P (allClasses : Action σ Body) :=
  .after (.call _) fun _ => .of_sure (.list (fun _ => (Sure.call hP _).bind fun _ =>
    (Sure.registry _).bind fun _ => .pure _) _)

/-- The facts come first, and one id last. -/
theorem undone_classLoader : Undone P (classLoader : Action σ Body) :=
  .after quiet_factsOfType fun _ => .of_sure (sure_idOf? _ _)

theorem undone_fields (hP : ∀ e, ¬ P (.ofTarget e)) : Undone P (fields : Action σ Body) :=
  .after quiet_type fun _ => .after (.call _) fun _ => .of_sure (.list (sure_member hP _ _) _)

theorem undone_methods (hP : ∀ e, ¬ P (.ofTarget e)) : Undone P (methods : Action σ Body) :=
  .after quiet_type fun _ => .after (.call _) fun _ => .of_sure (.list (sure_member hP _ _) _)

/-- The type above may be new, which is one more question after the last check. -/
theorem undone_superclass (hP : ∀ e, ¬ P (.ofTarget e)) :
    Undone P (superclass : Action σ Body) := by
  refine .after (.read _) fun id => .after (.lookUp _) fun resolved => ?_
  obtain ⟨type, tag⟩ := resolved
  refine .guard (.after (.call _) fun facts => .of_sure ?_)
  cases facts.superclass with
  | some parent => exact (sure_typeRef hP parent).bind fun _ => .pure _
  | none => exact .pure _

/-! ## Objects, strings and arrays -/

/-- The payload is done with once the object is resolved. -/
theorem undone_objectType (hP : ∀ e, ¬ P (.ofTarget e)) : Undone P (objectType : Action σ Body) :=
  .after (quiet_entity _) fun _ => .after (.call _) fun _ => .of_sure ((sure_typeRef hP _).map _)

theorem undone_reflectedType (hP : ∀ e, ¬ P (.ofTarget e)) :
    Undone P (reflectedType : Action σ Body) :=
  .after (quiet_entity _) fun _ => .after (.call _) fun _ => .of_sure ((sure_typeRef hP _).map _)

/-- All fields are resolved before the first value is read. -/
theorem undone_fieldValues (hP : ∀ e, ¬ P (.ofTarget e)) :
    Undone P (fieldValues : Action σ Body) := by
  refine .after (quiet_entity _) fun object => .after (.read _) fun n => ?_
  refine .after (.times (quiet_entity _) n) fun fields => .of_sure (.list (fun field => ?_) _)
  exact (Sure.call hP _).bind fun v => sure_tagged v

/-- A target that fails to make the string leaves no id for it. -/
theorem undone_createString : Undone P (createString : Action σ Body) :=
  .after (.read _) fun _ => .after (.call _) fun _ => .of_sure (sure_idOf _ _)

/-- **The elements are read in one question**, and named only when all of them are there. -/
theorem undone_arrayValues : Undone P (arrayValues : Action σ Body) := by
  refine .after (quiet_entity _) fun array => .after (.read _) fun first => ?_
  refine .after (.read _) fun length => .after (.call _) fun size => ?_
  cases region first length size with
  | error code => exact .of_quiet (.refuse _)
  | ok where_ =>
    refine .after (.call _) fun type => .after (.call _) fun facts => ?_
    cases componentTag? facts.signature with
    | none => exact .of_quiet (.throw _)
    | some tag =>
      refine .after (.call _) fun values => .of_sure ?_
      exact (Sure.list (fun v => .ite (sure_untagged v) (sure_tagged v)) _).bind fun _ => .pure _

/-! ## Threads, their groups and their stacks -/

theorem undone_allThreads : Undone P (allThreads : Action σ Body) :=
  .after (.call _) fun _ => .of_sure (.list (sure_idOf · _) _)

theorem undone_threadGroup : Undone P (threadGroup : Action σ Body) :=
  .after (quiet_entity _) fun _ => .after (.call _) fun _ => .of_sure (sure_idOf _ _)

/-- The page is cut before the first frame gets its id. -/
theorem undone_frames (hP : ∀ e, ¬ P (.ofTarget e)) : Undone P (frames : Action σ Body) := by
  refine .after (quiet_entity _) fun thread => .after (.read _) fun start => ?_
  refine .after (.read _) fun length => .after (quiet_stackOf thread) fun stack => ?_
  cases page start length stack with
  | error code => exact .of_quiet (.refuse _)
  | ok selected =>
    refine .of_sure (.list (fun f => ?_) selected)
    exact (sure_idOf _ _).bind fun _ => (sure_place hP f.method f.index).bind fun _ => .pure _

theorem undone_topLevelGroups : Undone P (topLevelGroups : Action σ Body) :=
  .after (.call _) fun _ => .of_sure (.list (sure_idOf · _) _)

theorem undone_groupParent : Undone P (groupParent : Action σ Body) :=
  .after quiet_factsOfGroup fun _ => .of_sure (sure_idOf? _ _)

/-- All slots are read from the payload before the first of them is asked for. -/
theorem undone_frameValues (hP : ∀ e, ¬ P (.ofTarget e)) :
    Undone P (frameValues : Action σ Body) := by
  refine .after quiet_frame fun frame => .after (.read _) fun n => ?_
  refine .after (.times ((Quiet.read _).bind fun _ => (Quiet.read _).bind fun _ => .pure _) n)
    fun slots => .of_sure (.list (fun (slot, tag) => ?_) _)
  exact (Sure.call hP _).bind fun v => sure_tagged v

/-- The kind of the receiver is asked for before its id. -/
theorem undone_frameReceiver : Undone P (frameReceiver : Action σ Body) := by
  refine .after quiet_frame fun frame => .after (.call _) fun receiver => ?_
  cases receiver with
  | some object => exact .after (.call _) fun kind => .of_sure (sure_tagged _)
  | none => exact .of_sure (sure_tagged .null)

end Answer

/-- **A command that fails has changed nothing but the target**, where it cannot fail for that
reason between two ids. -/
theorem Command.undone_answer [Target σ] {P : CommandError → Prop} {c : Command}
    (hc : c ≠ .disposeObjects) (hP : c.asksBetween → ∀ e, ¬ P (.ofTarget e)) :
    Action.Undone P (c.answer : Action σ Body) := by
  open DebugWire.Answer DebugWire.Action in
  by_cases hlooks : c.looks
  · obtain ⟨x, hx, hanswer⟩ : ∃ x : Action σ Bytes, x.Quiet ∧ _ := c.exists_quiet hlooks
    rw [hanswer]
    exact .of_quiet (hx.map _)
  cases c with
  | disposeObjects => exact absurd rfl hc
  | classesBySignature => exact undone_classesBySignature
  | allClasses => exact undone_allClasses (hP rfl)
  | fields => exact undone_fields (hP rfl)
  | methods => exact undone_methods (hP rfl)
  | superclass => exact undone_superclass (hP rfl)
  | objectType => exact undone_objectType (hP rfl)
  | frames => exact undone_frames (hP rfl)
  | reflectedType => exact undone_reflectedType (hP rfl)
  | fieldValues => exact undone_fieldValues (hP rfl)
  | frameValues => exact undone_frameValues (hP rfl)
  | allThreads => exact undone_allThreads
  | topLevelGroups => exact undone_topLevelGroups
  | createString => exact undone_createString
  | classLoader => exact undone_classLoader
  | threadGroup => exact undone_threadGroup
  | groupParent => exact undone_groupParent
  | arrayValues => exact undone_arrayValues
  | frameReceiver => exact undone_frameReceiver
  | resumeThread => exact undone_resumeThread.map _
  | suspendThread => exact undone_suspendThread.map _
  | disableCollection => exact undone_disableCollection.map _
  | enableCollection => exact undone_enableCollection.map _
  | setRequest => exact undone_setRequest.map _
  | clearRequest => exact undone_clearRequest.map _
  | dispose => exact (Undone.of_sure ((Sure.edit _).bind fun _ => .pure _)).map _
  | suspend => exact (Undone.of_sure ((Sure.edit _).bind fun _ => .pure _)).map _
  | resume =>
    refine (Undone.of_sure ?_).map _
    exact (Sure.registry _).bind fun _ => (Sure.edit _).bind fun _ => .pure _
  | clearBreakpoints => exact (Undone.of_sure ((sure_onRequests _).bind fun _ => .pure _)).map _
  | _ => exact absurd rfl hlooks

end DebugWire

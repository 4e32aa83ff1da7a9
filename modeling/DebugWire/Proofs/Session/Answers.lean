import DebugWire.Proofs.Session.Calls
import DebugWire.Session.Command

/-!
# Proofs/Session/Answers — which calls of the table a command makes

Each command is gone through once.  Most leave the table alone; the others write an id down for
exactly the entity that they registered.  `Command.mayCall` says which calls a command can make, and
`Command.calls_answer` that it makes no others, and that its reply names what they hand out.
-/

namespace DebugWire

variable {α σ : Type} {p : Operation → Bool} {L : List Naming}

namespace Action

/-! ## Ids in, ids out -/

/-- An id in the payload is resolved, which writes nothing down. -/
theorem quiet_entity (kind : EntityKind) : Quiet (entity kind : Action σ Handle) := .decode _

theorem quiet_type : Quiet (type : Action σ Handle) := (Quiet.decode _).bind fun _ => .pure _

/-- The id of an entity comes from its registration, and names it. -/
theorem calls_idOf (handle : Handle) (kind : EntityKind) (hop : p (.register handle kind)) :
    Calls p L (idOf handle kind : Action σ Body) fun body => L ++ body.names :=
  .map (.registry (Writing.calls_register handle kind hop))

/-- Without an entity the id is null, and nothing is named. -/
theorem calls_idOf? (handle : Option Handle) (kind : EntityKind)
    (hop : p (.registerOptional handle kind)) :
    Calls p L (idOf? handle kind : Action σ Body) fun body => L ++ body.names :=
  .map (.registry (Writing.calls_registerOptional handle kind hop))

/-- The type is named by the id alone; its tag rides along. -/
theorem calls_registerTagged (type : Handle) (tag : TypeTag) (hop : p (.registerTagged type tag)) :
    Calls p L (registry (·.registerTagged type tag) : Action σ TypeRef)
      fun t => L ++ [(type, t.id)] :=
  .registry (Writing.calls_registerTagged type tag hop)

/-- A value names the object it refers to, if it refers to one. -/
theorem calls_tagged (v : TargetValue) (hop : p (.toWire v)) :
    Calls p L (tagged v : Action σ Body) fun body => L ++ body.names :=
  .map (.registry (Writing.calls_toWire v hop))

/-- Leaving out the tag changes what is written, not what is named. -/
theorem calls_untagged (v : TargetValue) (hop : p (.toWire v)) :
    Calls p L (untagged v : Action σ Body) fun body => L ++ body.names :=
  .map (.registry (Writing.calls_toWire v hop))

/-- A call that registers nothing hands nothing out. -/
theorem handing_of_no_subject (op : Operation) (hop : p op) (hsubject : op.subject? = none)
    (r : Registry) : r.Handing p L (op.perform r).2 L := by
  have hnone : (op.naming? (op.perform r).1).toList = [] := by rw [Operation.naming?, hsubject]; rfl
  have hperform := Registry.Handing.perform hop L r
  rwa [hnone, List.append_nil] at hperform

/-- A call that changes the table and answers nothing. -/
theorem calls_silent (op : Operation) (hop : p op) (hsubject : op.subject? = none)
    {f : Registry → Registry} (hf : ∀ r, f r = (op.perform r).2) :
    Calls p L (registry fun r => ((), f r) : Action σ Unit) fun _ => L := by
  intro c
  refine ⟨L, ?_, fun _ _ => rfl⟩
  change Registry.Handing p L c.backend.registry (f c.backend.registry) L
  rw [hf]
  exact handing_of_no_subject op hop hsubject c.backend.registry

/-- A change of the table that may be refused. -/
theorem calls_tryRegistry (op : Operation) (hop : p op) (hsubject : op.subject? = none)
    {f : Registry → Except CommandError Registry} (hf : ∀ r, r.settle (f r) = (op.perform r).2) :
    Calls p L (tryRegistry f : Action σ Unit) fun _ => L := by
  intro c
  have hrun : ((tryRegistry f).run c).2.backend.registry =
      (op.perform c.backend.registry).2 := by
    rw [← hf]
    have hlook : (lookUp f : Action σ Registry).run c = (f c.backend.registry, c) := by
      rw [lookUp, Attempt.run_bind]
      exact Attempt.run_ofExcept _ c
    rw [tryRegistry, Attempt.run_bind, hlook]
    cases f c.backend.registry <;> rfl
  exact ⟨L, hrun ▸ handing_of_no_subject op hop hsubject c.backend.registry, fun _ _ => rfl⟩

variable [Target σ]

/-- The tag of a type, if the target tells it. -/
def toldTag (type : Handle) (t : σ) : Except TargetError TypeTag :=
  ((Target.typeFacts type : TargetCall σ TypeFacts).run t).1.map (·.typeTag)

/-- The id of a type comes from its registration. -/
theorem run_typeRef (type : Handle) (c : Call σ) :
    ((typeRef type : Action σ TypeRef).run c).1 =
        (c.backend.registry.registerType type (toldTag type c.backend.target)).1.mapError
          .ofTarget ∧
      ((typeRef type : Action σ TypeRef).run c).2.backend.registry =
        (c.backend.registry.registerType type (toldTag type c.backend.target)).2 := by
  rcases hknown : c.backend.registry.knownType type with ⟨known, r⟩
  have hrun : (registry (·.knownType type) : Action σ (Option TypeRef)).run c =
      (.ok known, { c with backend := { c.backend with registry := r } }) := by
    rw [registry, Attempt.run_ofStep, hknown]
  unfold Registry.registerType toldTag
  rw [typeRef, Attempt.run_bind_of_ok hrun, hknown]
  cases known with
  | some t => exact ⟨rfl, rfl⟩
  | none =>
    simp only [Attempt.run_bind, call, Attempt.run_within]
    rcases (Target.typeFacts type : TargetCall σ TypeFacts).run c.backend.target with ⟨e | facts, t⟩
    · exact ⟨rfl, rfl⟩
    · exact ⟨rfl, rfl⟩

/-- **A type is one call of the table**, known or new: `run_typeRef` folds the look-up, the question
to the target and the registration into `registerType`. -/
theorem calls_typeRef (type : Handle) (hop : ∀ facts, p (.registerType type facts)) :
    Calls p L (typeRef type : Action σ TypeRef) fun t => L ++ [(type, t.id)] := by
  intro c
  obtain ⟨hanswer, hregistry⟩ := run_typeRef type c
  rw [hanswer, hregistry]
  let op : Operation := .registerType type (toldTag type c.backend.target)
  refine ⟨_, Registry.Handing.perform (hop _) L c.backend.registry, fun t ht => ?_⟩
  have hid : (op.perform c.backend.registry).1.id? = some t.id :=
    congrArg (fun answer => (Outcome.typeRef answer).id?) (Attempt.mapError_eq_ok_iff.mp ht)
  have hnaming : op.naming? (op.perform c.backend.registry).1 = some (type, t.id) :=
    Operation.naming?_eq_some_iff.mpr ⟨.referenceType, rfl, hid⟩
  rw [hnaming]
  rfl

theorem calls_typeOf (type : Handle) (hop : ∀ facts, p (.registerType type facts)) :
    Calls p L (typeOf type : Action σ Body) fun body => L ++ body.names :=
  .map (calls_typeRef type hop)

/-- A place names its declaring type first, and then its method. -/
theorem calls_place (method : Handle) (index : UInt64)
    (htype : ∀ type facts, p (.registerType type facts)) (hmethod : p (.register method .method)) :
    Calls p L (place method index : Action σ Body) fun body => L ++ body.names := by
  refine .after (.call _) fun facts => ?_
  refine (calls_typeRef facts.declaringType (htype _)).bind fun t => ?_
  exact (Calls.registry (Writing.calls_register method .method hmethod)).bind fun id =>
    .pure (by simp)

end Action

/-! ## The calls of each command -/

/-- Whether the reply to the command may name objects. -/
def Command.namesObjects : Command → Bool
  | .allThreads | .topLevelGroups | .createString | .classLoader | .fieldValues | .threadGroup
  | .groupParent | .arrayValues | .frameValues | .frameReceiver => true
  | _ => false

/-- The calls that a command can make. -/
def Command.mayCall : Command → Operation → Bool
  | .dispose, .disposeAll => true
  | .resume, .invalidateFrames => true
  | .resumeThread, .invalidateFrames => true
  | .disposeObjects, .disposeObjects .. => true
  | .disableCollection, .disableCollection _ => true
  | .enableCollection, .enableCollection _ => true
  | c, op => op.registersOther || (c.namesObjects && op.registers)

/-- Writing down what is not an object is open to every command. -/
theorem Command.mayCall_of_registersOther (c : Command) {op : Operation} (h : op.registersOther) :
    c.mayCall op := by
  unfold mayCall
  split
  all_goals first | rfl | simp [h]

/-- Writing down objects as well is open to the commands whose replies name objects. -/
theorem Command.mayCall_of_registers {c : Command} (hc : c.namesObjects) {op : Operation}
    (h : op.registers) : c.mayCall op := by
  unfold mayCall
  split
  all_goals first | rfl | simp [h, hc]

namespace Answer

open DebugWire.Action

/-! ## What needs no target -/

/-- A field or a method is asked for its facts, and then registered. -/
theorem calls_member (kind : EntityKind) (facts : Handle → TargetCall σ MemberFacts) (h : Handle)
    (hop : p (.register h kind)) :
    Calls p L (member kind facts h) fun body => L ++ body.names := by
  refine .after (.call _) fun f => (calls_idOf h kind hop).bind fun id => .pure ?_
  simp

/-- Pinning is one call, which may be refused. -/
theorem calls_disableCollection :
    Calls (Command.mayCall .disableCollection) [] (disableCollection : Action σ Bytes)
      fun _ => [] :=
  .after (.read _) fun id => (calls_tryRegistry (.disableCollection id) rfl rfl
    fun _ => rfl).bind fun _ => .pure rfl

theorem calls_enableCollection :
    Calls (Command.mayCall .enableCollection) [] (enableCollection : Action σ Bytes) fun _ => [] :=
  .after (.read _) fun id => (calls_tryRegistry (.enableCollection id) rfl rfl
    fun _ => rfl).bind fun _ => .pure rfl

theorem quiet_isSuspended (thread : Handle) : Quiet (isSuspended thread : Action σ Bool) :=
  Quiet.backend.bind fun _ => .pure _

/-- The counts lie beside the table. -/
theorem calls_editSuspension (f : Suspension → Suspension) :
    Calls p L (editSuspension f : Action σ Unit) fun _ => L := .of_kept fun _ => rfl

theorem calls_suspendThread : Calls p [] (suspendThread : Action σ Bytes) fun _ => [] :=
  .after (quiet_entity _) fun _ => (calls_editSuspension _).bind fun _ => .pure rfl

/-- The frames are forgotten once the thread is let go, and only then. -/
theorem calls_resumeThread :
    Calls (Command.mayCall .resumeThread) [] (resumeThread : Action σ Bytes) fun _ => [] := by
  refine .after (quiet_entity _) fun thread => (calls_editSuspension _).bind fun _ => ?_
  refine .after (quiet_isSuspended thread) fun suspended => ?_
  refine .ite ((calls_silent .invalidateFrames rfl rfl fun _ => rfl).bind fun _ => ?_) ?_
  · exact .pure rfl
  · exact .pure rfl

/-- Ending a session is a call of the registry as well. -/
theorem calls_dispose :
    Calls (Command.mayCall .dispose) [] (dispose : Action σ Bytes) fun _ => [] := by
  have hedit : Calls (Command.mayCall .dispose) [] (edit Backend.dispose : Action σ Unit)
      fun _ => [] :=
    fun c => ⟨[], handing_of_no_subject .disposeAll rfl rfl c.backend.registry,
      fun _ _ => rfl⟩
  exact hedit.bind fun _ => .pure rfl

theorem calls_suspend : Calls p [] (suspend : Action σ Bytes) fun _ => [] :=
  (calls_editSuspension _).bind fun _ => .pure rfl

/-- Unlike `calls_resumeThread`, the frames go first, and whatever the counts are. -/
theorem calls_resume : Calls (Command.mayCall .resume) [] (resume : Action σ Bytes) fun _ => [] :=
  (calls_silent .invalidateFrames rfl rfl fun _ => rfl).bind fun _ =>
    (calls_editSuspension _).bind fun _ => .pure rfl

/-- **Each item is given back as it is read**, so a call may come in front of a payload that ends
too soon. -/
theorem calls_disposeObjects :
    Calls (Command.mayCall .disposeObjects) [] (disposeObjects : Action σ Bytes) fun _ => [] := by
  refine .after (.read _) fun n => .bind (.times ?_ n) fun _ => .pure rfl
  refine .after (.read _) fun id => .after (.read _) fun count => ?_
  exact calls_silent (.disposeObjects id count.toNatClampNeg) rfl rfl fun _ => rfl

/-- The requests lie beside the table as well. -/
theorem calls_onRequests {α : Type} (f : RequestTable → α × RequestTable) :
    Calls p L (onRequests f : Action σ α) fun _ => L := .of_kept fun _ => rfl

/-- A number of no kind of event is refused here, with everything still as it was. -/
theorem quiet_eventKind : Quiet (eventKind : Action σ EventKind) := by
  refine (Quiet.read _).bind fun raw => ?_
  cases EventKind.ofNumber? raw with
  | some kind => exact .pure kind
  | none => exact .throw _

theorem quiet_suspendPolicy : Quiet (suspendPolicy : Action σ SuspendPolicy) :=
  (Quiet.read _).bind fun _ => .ofExcept _

/-- The ids that modifiers mention are resolved, not handed out. -/
theorem calls_setRequest : Calls p [] (setRequest : Action σ Bytes) fun _ => [] := by
  refine .after quiet_eventKind fun kind => .after quiet_suspendPolicy fun policy => ?_
  refine .after (.read _) fun n => .after (.times (.decode _) n) fun modifiers => ?_
  exact .map (calls_onRequests _)

theorem calls_clearRequest : Calls p [] (clearRequest : Action σ Bytes) fun _ => [] :=
  .after quiet_eventKind fun _ => .after (.read _) fun _ => (calls_onRequests _).bind fun _ =>
    .pure rfl

theorem calls_clearBreakpoints : Calls p [] (clearBreakpoints : Action σ Bytes) fun _ => [] :=
  (calls_onRequests _).bind fun _ => .pure rfl

variable [Target σ]

/-! ## Types -/

theorem quiet_factsOfType : Quiet (factsOfType : Action σ TypeFacts) :=
  quiet_type.bind fun _ => .call _

/-- All types are asked for their facts before the first id is handed out. -/
theorem calls_classesBySignature :
    Calls Operation.registersOther [] (classesBySignature : Action σ Body) Body.names := by
  refine .after (.read _) fun signature => .after (.call _) fun types => ?_
  refine .after (.mapM (fun _ => (Quiet.call _).bind fun _ => .pure _) _) fun classes => ?_
  refine .list fun c _ L => (calls_registerTagged c.1 c.2.typeTag rfl).bind fun t => .pure ?_
  simp

/-- Here each type is asked just before its own id, so a target that fails leaves the ids in front
of it behind. -/
theorem calls_allClasses :
    Calls Operation.registersOther [] (allClasses : Action σ Body) Body.names := by
  refine .after (.call _) fun types => .list fun type _ L => .after (.call _) fun facts => ?_
  refine (calls_registerTagged type facts.typeTag rfl).bind fun t => .pure ?_
  simp

/-- The loader may be absent, which is the null id. -/
theorem calls_classLoader :
    Calls Operation.registers [] (classLoader : Action σ Body) Body.names :=
  .after quiet_factsOfType fun facts => calls_idOf? facts.classLoader (.object .classLoader) rfl

/-- The fields are named in the order in which the target lists them. -/
theorem calls_fields : Calls Operation.registersOther [] (fields : Action σ Body) Body.names :=
  .after quiet_type fun _ => .after (.call _) fun _ => .list fun h _ _ => calls_member _ _ h rfl

theorem calls_methods : Calls Operation.registersOther [] (methods : Action σ Body) Body.names :=
  .after quiet_type fun _ => .after (.call _) fun _ => .list fun h _ _ => calls_member _ _ h rfl

/-- A type without a source is refused, and nothing is named. -/
theorem quiet_sourceFile : Quiet (sourceFile : Action σ Bytes) := by
  refine quiet_factsOfType.bind fun facts => ?_
  split
  · exact .pure _
  · exact .refuse _

/-- The root of a hierarchy has nothing above it, and names nothing. -/
theorem calls_superclass :
    Calls Operation.registersOther [] (superclass : Action σ Body) Body.names := by
  refine .after (.read _) fun id => .after (.lookUp _) fun resolved => ?_
  obtain ⟨type, tag⟩ := resolved
  refine .guard (.after (.call _) fun facts => ?_)
  cases facts.superclass with
  | some parent => exact (calls_typeRef parent fun _ => rfl).bind fun t => .pure rfl
  | none => exact .pure rfl

/-! ## Methods -/

/-- A method that belongs to another type than the one in front of it is refused. -/
theorem quiet_method : Quiet (method : Action σ Handle) := by
  refine quiet_type.bind fun type => (Quiet.read _).bind fun id => (Quiet.lookUp _).bind fun h => ?_
  exact (Quiet.call _).bind fun facts => .guard (.pure _)

theorem quiet_lineTable : Quiet (lineTable : Action σ Bytes) :=
  quiet_method.bind fun _ => (Quiet.call _).bind fun _ => .pure _

theorem quiet_variableTable : Quiet (variableTable : Action σ Bytes) :=
  quiet_method.bind fun _ => (Quiet.call _).bind fun _ => .pure _

/-! ## Objects, strings and arrays -/

/-- The object itself is not named again, only its type. -/
theorem calls_objectType :
    Calls Operation.registersOther [] (objectType : Action σ Body) Body.names :=
  .after (quiet_entity _) fun _ => .after (.call _) fun type => calls_typeOf type fun _ => rfl

/-- All fields are resolved first; then each value is read and named in turn. -/
theorem calls_fieldValues :
    Calls Operation.registers [] (fieldValues : Action σ Body) Body.names := by
  refine .after (quiet_entity _) fun object => .after (.read _) fun n => ?_
  refine .after (.times (quiet_entity _) n) fun fields => .list fun field _ L => ?_
  exact .after (.call _) fun v => calls_tagged v rfl

theorem calls_reflectedType :
    Calls Operation.registersOther [] (reflectedType : Action σ Body) Body.names :=
  .after (quiet_entity _) fun _ => .after (.call _) fun type => calls_typeOf type fun _ => rfl

/-- The new string is an object that the target made for this call. -/
theorem calls_createString :
    Calls Operation.registers [] (createString : Action σ Body) Body.names :=
  .after (.read _) fun _ => .after (.call _) fun handle => calls_idOf handle _ rfl

/-- Elements are named one by one, with a tag each or one tag for all; the calls are the same. -/
theorem calls_arrayValues :
    Calls Operation.registers [] (arrayValues : Action σ Body) Body.names := by
  refine .after (quiet_entity _) fun array => .after (.read _) fun first => ?_
  refine .after (.read _) fun length => .after (.call _) fun size => ?_
  cases region first length size with
  | error code => exact .throw _
  | ok where_ =>
    refine .after (.call _) fun type => .after (.call _) fun facts => ?_
    cases componentTag? facts.signature with
    | none => exact .throw _
    | some tag =>
      refine .after (.call _) fun values => ?_
      refine (Calls.list fun v _ L => ?_).bind fun body => .pure (by simp)
      exact .ite (calls_untagged v rfl) (calls_tagged v rfl)

/-! ## Threads, their groups and their stacks -/

/-- A thread that runs has no stack to look at. -/
theorem quiet_stackOf (thread : Handle) : Quiet (stackOf thread : Action σ (List FrameFacts)) := by
  exact (quiet_isSuspended thread).bind fun suspended => .guard (.call _)

theorem calls_allThreads :
    Calls Operation.registers [] (allThreads : Action σ Body) Body.names :=
  .after (.call _) fun _ => .list fun thread _ _ => calls_idOf thread _ rfl

theorem calls_threadGroup :
    Calls Operation.registers [] (threadGroup : Action σ Body) Body.names :=
  .after (quiet_entity _) fun _ => .after (.call _) fun facts => calls_idOf facts.group _ rfl

/-- A frame is named before the type and the method of its place. -/
theorem calls_frames : Calls Operation.registersOther [] (frames : Action σ Body) Body.names := by
  refine .after (quiet_entity _) fun thread => .after (.read _) fun start => ?_
  refine .after (.read _) fun length => .after (quiet_stackOf thread) fun stack => ?_
  cases page start length stack with
  | error code => exact .throw _
  | ok selected =>
    refine .list fun f _ L => (calls_idOf f.frame .frame rfl).bind fun id => ?_
    exact (calls_place f.method f.index (fun _ _ => rfl) rfl).bind fun place => .pure (by simp)

/-- A frame counts only on the stack of the thread in front of it. -/
theorem quiet_frame : Quiet (frame : Action σ Handle) := by
  refine (quiet_entity _).bind fun thread => (Quiet.read _).bind fun id => ?_
  refine (Quiet.lookUp _).bind fun frame => (quiet_stackOf thread).bind fun stack => ?_
  exact .guard (.pure _)

theorem calls_topLevelGroups :
    Calls Operation.registers [] (topLevelGroups : Action σ Body) Body.names :=
  .after (.call _) fun _ => .list fun group _ _ => calls_idOf group _ rfl

theorem quiet_factsOfGroup : Quiet (factsOfGroup : Action σ ThreadGroupFacts) :=
  (quiet_entity _).bind fun _ => .call _

theorem calls_groupParent :
    Calls Operation.registers [] (groupParent : Action σ Body) Body.names :=
  .after quiet_factsOfGroup fun facts => calls_idOf? facts.parent _ rfl

/-- **A slot that fails leaves the values in front of it named**, though the reply is lost. -/
theorem calls_frameValues :
    Calls Operation.registers [] (frameValues : Action σ Body) Body.names := by
  refine .after quiet_frame fun frame => .after (.read _) fun n => ?_
  refine .after (.times ((Quiet.read _).bind fun _ => (Quiet.read _).bind fun _ => .pure _) n)
    fun slots => .list fun (slot, tag) _ L => ?_
  exact .after (.call _) fun v => calls_tagged v rfl

/-- A static method has no receiver; its frame answers the null object. -/
theorem calls_frameReceiver :
    Calls Operation.registers [] (frameReceiver : Action σ Body) Body.names := by
  refine .after quiet_frame fun frame => .after (.call _) fun receiver => ?_
  cases receiver with
  | some object => exact .after (.call _) fun kind => calls_tagged _ rfl
  | none => exact calls_tagged .null rfl

end Answer

/-! ## All commands -/

/-- Whether the command only looks. -/
def Command.looks : Command → Bool
  | .version | .idSizes | .capabilities | .capabilitiesNew | .typeSignature | .typeModifiers
  | .sourceFile | .typeStatus | .lineTable | .variableTable | .isCollected | .stringValue
  | .threadName | .threadStatus | .frameCount | .suspendCount | .groupName | .arrayLength => true
  | _ => false

/-- A command that only looks names nothing. -/
theorem Command.exists_quiet [Target σ] {c : Command} (h : c.looks) :
    ∃ x : Action σ Bytes, x.Quiet ∧ c.answer = Body.plain <$> x := by
  open DebugWire.Answer DebugWire.Action in
  cases c with
  | version => exact ⟨_, Quiet.backend.bind fun _ => .pure _, rfl⟩
  | idSizes => exact ⟨_, .pure _, rfl⟩
  | capabilities => exact ⟨_, Quiet.backend.bind fun _ => .pure _, rfl⟩
  | capabilitiesNew => exact ⟨_, Quiet.backend.bind fun _ => .pure _, rfl⟩
  | typeSignature => exact ⟨_, quiet_factsOfType.bind fun _ => .pure _, rfl⟩
  | typeModifiers => exact ⟨_, quiet_factsOfType.bind fun _ => .pure _, rfl⟩
  | sourceFile => exact ⟨_, quiet_sourceFile, rfl⟩
  | typeStatus => exact ⟨_, quiet_factsOfType.bind fun _ => .pure _, rfl⟩
  | lineTable => exact ⟨_, quiet_lineTable, rfl⟩
  | variableTable => exact ⟨_, quiet_variableTable, rfl⟩
  | isCollected =>
    exact ⟨_, (Quiet.read _).bind fun _ => (Quiet.lookUp _).bind fun _ => .pure _, rfl⟩
  | stringValue =>
    exact ⟨_, (quiet_entity _).bind fun _ => (Quiet.call _).bind fun _ => .pure _, rfl⟩
  | threadName =>
    exact ⟨_, (quiet_entity _).bind fun _ => (Quiet.call _).bind fun _ => .pure _, rfl⟩
  | threadStatus =>
    exact ⟨_, (quiet_entity _).bind fun thread => (Quiet.call _).bind fun _ =>
      (quiet_isSuspended thread).bind fun _ => .pure _, rfl⟩
  | frameCount =>
    exact ⟨_, (quiet_entity _).bind fun thread => (quiet_stackOf thread).bind fun _ => .pure _, rfl⟩
  | suspendCount =>
    exact ⟨_, (quiet_entity _).bind fun _ => Quiet.backend.bind fun _ => .pure _, rfl⟩
  | groupName => exact ⟨_, quiet_factsOfGroup.bind fun _ => .pure _, rfl⟩
  | arrayLength =>
    exact ⟨_, (quiet_entity _).bind fun _ => (Quiet.call _).bind fun _ => .pure _, rfl⟩
  | _ => exact absurd h nofun

/-- **What a command hands out is what its reply names**, if there is one. -/
theorem Command.calls_answer [Target σ] (c : Command) :
    Action.Calls c.mayCall [] (c.answer : Action σ Body) Body.names := by
  open DebugWire.Answer DebugWire.Action in
  by_cases hlooks : c.looks
  · obtain ⟨x, hx, hanswer⟩ : ∃ x : Action σ Bytes, x.Quiet ∧ _ := c.exists_quiet hlooks
    rw [hanswer]
    exact .plain (.of_quiet hx)
  have other {x : Action σ Body} (hx : Calls Operation.registersOther [] x Body.names) :
      Calls c.mayCall [] x Body.names := hx.mono fun _ => c.mayCall_of_registersOther
  have any (hc : c.namesObjects) {x : Action σ Body}
      (hx : Calls Operation.registers [] x Body.names) : Calls c.mayCall [] x Body.names :=
    hx.mono fun _ => mayCall_of_registers hc
  cases c with
  | classesBySignature => exact other calls_classesBySignature
  | allClasses => exact other calls_allClasses
  | fields => exact other calls_fields
  | methods => exact other calls_methods
  | superclass => exact other calls_superclass
  | objectType => exact other calls_objectType
  | frames => exact other calls_frames
  | reflectedType => exact other calls_reflectedType
  | allThreads => exact any rfl calls_allThreads
  | topLevelGroups => exact any rfl calls_topLevelGroups
  | createString => exact any rfl calls_createString
  | classLoader => exact any rfl calls_classLoader
  | fieldValues => exact any rfl calls_fieldValues
  | threadGroup => exact any rfl calls_threadGroup
  | groupParent => exact any rfl calls_groupParent
  | arrayValues => exact any rfl calls_arrayValues
  | frameValues => exact any rfl calls_frameValues
  | frameReceiver => exact any rfl calls_frameReceiver
  | dispose => exact .plain calls_dispose
  | resume => exact .plain calls_resume
  | resumeThread => exact .plain calls_resumeThread
  | disposeObjects => exact .plain calls_disposeObjects
  | disableCollection => exact .plain calls_disableCollection
  | enableCollection => exact .plain calls_enableCollection
  | suspend => exact .plain calls_suspend
  | suspendThread => exact .plain calls_suspendThread
  | setRequest => exact .plain calls_setRequest
  | clearRequest => exact .plain calls_clearRequest
  | clearBreakpoints => exact .plain calls_clearBreakpoints
  | _ => exact absurd rfl hlooks

end DebugWire

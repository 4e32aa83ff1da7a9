import DebugWire.Session.Command

/-!
# Proofs/Session/Keeping — what a command keeps, and how it may fail

`Attempt.Keeps I E x` says that `x`, begun where `I` holds, ends where `I` holds, and fails only as
`E` allows.  The rules below go along the way an attempt is built.  A command reads, asks the
target, works on the table, and a few change the session (`Command.changesSession`); so whatever
bears the first three (`Action.Bears`) is kept by every other command (`Command.keeps_answer`).
-/

namespace DebugWire

variable {ε ε' σ τ α β : Type}

namespace Attempt

/-- Begun where `I` holds, the attempt ends where `I` holds, and fails only as `E` allows. -/
def Keeps (I : σ → Prop) (E : ε → Prop) (x : Attempt ε σ α) : Prop :=
  ∀ s, I s → I (run x s).2 ∧ ∀ e, (run x s).1 = .error e → E e

namespace Keeps

variable {I : σ → Prop} {E : ε → Prop}

/-- What asks for nothing is kept by everything. -/
theorem trivial (x : Attempt ε σ α) : Keeps (fun _ => True) (fun _ => True) x :=
  fun _ _ => ⟨.intro, fun _ _ => .intro⟩

theorem pure (a : α) : Keeps I E (Pure.pure a) := fun _ hs => ⟨hs, nofun⟩

/-- An attempt that fails has changed nothing. -/
theorem throw {e : ε} (he : E e) : Keeps I E (MonadExcept.throw e : Attempt ε σ α) :=
  fun _ hs => ⟨hs, fun _ h => Except.error.inj h ▸ he⟩

theorem get : Keeps I E (get : Attempt ε σ σ) := fun _ hs => ⟨hs, nofun⟩

/-- **Two attempts in a row.**  The second may use what is known of the answer of the first. -/
theorem bind_of_ok {x : Attempt ε σ α} {f : α → Attempt ε σ β} (hx : Keeps I E x)
    (hf : ∀ a s, I s → (run x s).1 = .ok a → Keeps I E (f a)) : Keeps I E (x >>= f) := by
  intro s hs
  rw [run_bind]
  obtain ⟨hkept, herror⟩ := hx s hs
  have hanswer (a : α) := hf a s hs
  split
  · next a t hrun =>
    rw [hrun] at hkept hanswer
    exact hanswer a rfl t hkept
  · next e t hrun =>
    rw [hrun] at hkept herror
    exact ⟨hkept, fun _ h => Except.error.inj h ▸ herror e rfl⟩

/-- The usual case, in which nothing needs to be known of the first answer. -/
theorem bind {x : Attempt ε σ α} {f : α → Attempt ε σ β} (hx : Keeps I E x)
    (hf : ∀ a, Keeps I E (f a)) : Keeps I E (x >>= f) := hx.bind_of_ok fun a _ _ _ => hf a

theorem map {x : Attempt ε σ α} (hx : Keeps I E x) (f : α → β) : Keeps I E (f <$> x) := by
  rw [map_eq_pure_bind]
  exact hx.bind fun _ => .pure _

/-- A result that is there already can only be a failure that is allowed. -/
theorem ofExcept {r : Except ε α} (hr : ∀ e, r = .error e → E e) : Keeps I E (ofExcept r) := by
  intro s hs
  rw [run_ofExcept]
  exact ⟨hs, hr⟩

/-- A step that cannot fail has to lead from `I` to `I`. -/
theorem ofStep {f : σ → α × σ} (hf : ∀ s, I s → I (f s).2) : Keeps I E (ofStep f) :=
  fun s hs => ⟨hf s hs, nofun⟩

theorem ite {p : Prop} [Decidable p] {x y : Attempt ε σ α} (hx : Keeps I E x) (hy : Keeps I E y) :
    Keeps I E (if p then x else y) := by
  split
  · exact hx
  · exact hy

/-- An attempt that is refused under a condition. -/
theorem guard {p : Prop} [Decidable p] {e : ε} {rest : Attempt ε σ α} (he : E e)
    (hrest : Keeps I E rest) :
    Keeps I E
      (if p then (MonadExcept.throw e : Attempt ε σ PUnit) >>= fun _ => rest else rest) :=
  .ite ((throw he).bind fun _ => hrest) hrest

/-- What is kept by an attempt for each item is kept by all of them in a row. -/
theorem mapM {f : α → Attempt ε σ β} (hf : ∀ a, Keeps I E (f a)) :
    ∀ xs : List α, Keeps I E (xs.mapM f)
  | [] => pure _
  | x :: xs => by
      rw [List.mapM_cons]
      exact (hf x).bind fun _ => (mapM hf xs).bind fun _ => pure _

/-- An attempt on a part of the state. -/
theorem within {J : τ → Prop} {E' : ε' → Prop} {part : σ → τ} {put : τ → σ → σ} {f : ε' → ε}
    {x : Attempt ε' τ α} (hx : Keeps J E' x) (hpart : ∀ s, I s → J (part s))
    (hput : ∀ s t, I s → J t → I (put t s)) (herror : ∀ e, E' e → E (f e)) :
    Keeps I E (within part put f x) := by
  intro s hs
  rw [run_within]
  obtain ⟨hkept, hfails⟩ := hx (part s) (hpart s hs)
  refine ⟨hput s _ hs hkept, fun e he => ?_⟩
  cases hrun : (run x (part s)).1 with
  | error e' =>
    rw [hrun] at he
    exact Except.error.inj he ▸ herror e' (hfails e' hrun)
  | ok a =>
    rw [hrun] at he
    cases he

end Keeps
end Attempt

/-! ## Reading -/

/-- The error has a reply code. -/
def CommandError.Told (e : CommandError) : Prop := e.replyCode ≠ none

/-- The payload is to blame: it is malformed, or names an entity that is not there. -/
inductive CommandError.Blames : CommandError → Prop where
  | invalidId (expected : EntityKind) (id : WireId) : Blames (.invalidId expected id)
  | malformed (error : DecodeError) : Blames (.malformed error)

/-- Whatever the payload is to blame for, the debugger is told by a code. -/
theorem CommandError.Blames.told {e : CommandError} (h : e.Blames) : e.Told := by
  cases h <;> exact nofun

/-- A reader that fails only if the payload is to blame. -/
abbrev Decode.Blames (x : Decode α) : Prop := Attempt.Keeps (fun _ => True) CommandError.Blames x

/-- A part of the payload that cannot be read is malformed. -/
theorem Decode.blames_part (x : Read α) : (Decode.part x).Blames :=
  (Attempt.Keeps.trivial x).within (fun _ _ => .intro) (fun _ _ _ _ => .intro) fun e _ =>
    .malformed e

namespace Registry

variable {r : Registry}

/-- An id that does not resolve is an invalid one, whatever became of it. -/
theorem blames_of_resolve {id : WireId} {expected : EntityKind} {e : CommandError}
    (h : r.resolve id expected = .error e) : e.Blames := by
  unfold resolve at h
  grind [CommandError.Blames]

theorem blames_of_resolveOptional {id : WireId} {expected : EntityKind} {e : CommandError}
    (h : r.resolveOptional id expected = .error e) : e.Blames := by
  unfold resolveOptional at h
  split at h
  · cases h
  · cases hresolve : r.resolve id expected with
    | ok handle =>
      rw [hresolve] at h
      cases h
    | error e' =>
      rw [hresolve] at h
      obtain rfl : e' = e := Except.error.inj h
      exact blames_of_resolve hresolve

/-- The same, of the id of a type. -/
theorem blames_of_resolveType {id : WireId} {e : CommandError} (h : r.resolveType id = .error e) :
    e.Blames := by
  unfold resolveType at h
  grind [CommandError.Blames]

/-- An id that was never that of an object is refused, with a code. -/
theorem told_of_isCollected {id : WireId} {e : CommandError} (h : r.isCollected id = .error e) :
    e.Told := by
  unfold isCollected at h
  grind [CommandError.Told, CommandError.replyCode]

theorem told_of_disableCollection {id : WireId} {e : CommandError}
    (h : r.disableCollection id = .error e) : e.Told := by
  unfold disableCollection at h
  grind [CommandError.Told, CommandError.replyCode]

/-- What no longer resolves is let pass; only what is no object is refused, with a code. -/
theorem told_of_enableCollection {id : WireId} {e : CommandError}
    (h : r.enableCollection id = .error e) : e.Told := by
  unfold enableCollection at h
  grind [CommandError.Told, CommandError.replyCode]

theorem blames_readEntity (kind : EntityKind) : (r.readEntity kind).Blames :=
  (Decode.blames_part _).bind fun _ => .ofExcept fun _ => blames_of_resolve

theorem blames_readType : r.readType.Blames :=
  (Decode.blames_part _).bind fun _ => .ofExcept fun _ => blames_of_resolveType

/-- A position may name a type that is none, a type of another sort, or a method that is none. -/
theorem blames_readPosition : r.readPosition.Blames := by
  refine (Decode.blames_part _).bind fun raw => (Decode.blames_part _).bind fun typeId => ?_
  refine (Decode.blames_part _).bind fun methodId => (Decode.blames_part _).bind fun index => ?_
  cases TypeTag.ofNumber? raw with
  | none => exact .throw (.invalidId _ _)
  | some tag =>
    refine (Attempt.Keeps.ofExcept fun _ => blames_of_resolveType).bind fun (type, known) => ?_
    refine .guard (.invalidId _ _) ?_
    exact (Attempt.Keeps.ofExcept fun _ => blames_of_resolve).bind fun _ => .pure _

end Registry

theorem Modifier.blames_readPattern : readPattern.Blames := (Decode.blames_part _).map _

/-- A count of events may not be below one. -/
theorem Modifier.blames_readCount : readCount.Blames :=
  (Decode.blames_part _).bind fun _ => .ite (.throw (.malformed _)) (.pure _)

/-- **A filter is refused for its payload only**: for a kind that is none, an id that is none, or
bytes that are missing. -/
theorem Modifier.blames_read (r : Registry) : (Modifier.read r).Blames := by
  refine (Decode.blames_part _).bind fun raw => ?_
  split
  · exact blames_readCount.bind fun _ => .pure _
  · exact (Decode.blames_part _).bind fun _ => .pure _
  · exact (Registry.blames_readEntity _).bind fun _ => .pure _
  · exact Registry.blames_readType.bind fun _ => .pure _
  · exact blames_readPattern.bind fun _ => .pure _
  · exact blames_readPattern.bind fun _ => .pure _
  · exact Registry.blames_readPosition.bind fun _ => .pure _
  · refine (Decode.blames_part _).bind fun id => .ite ((Attempt.Keeps.pure _).bind fun type => ?_)
      ((Attempt.Keeps.map (.ofExcept fun _ => Registry.blames_of_resolveType) _).bind
        fun type => ?_)
    all_goals
      exact (Decode.blames_part _).bind fun _ => (Decode.blames_part _).bind fun _ => .pure _
  · refine Registry.blames_readType.bind fun _ => ?_
    exact (Registry.blames_readEntity _).bind fun _ => .pure _
  · exact (Registry.blames_readEntity _).bind fun _ => (Decode.blames_part _).bind fun _ =>
      (Decode.blames_part _).bind fun _ => .pure _
  · exact (Decode.blames_part _).bind fun _ =>
      (Attempt.Keeps.ofExcept fun _ => Registry.blames_of_resolveOptional).bind fun _ => .pure _
  · exact blames_readPattern.bind fun _ => .pure _
  · exact .throw (.malformed _)

/-! ## Asking the target -/

/-- The calls on a target that can be made. -/
inductive Target.Asks [Target σ] : {α : Type} → TargetCall σ α → Prop where
  | allClasses : Asks Target.allClasses
  | typeFacts (type : Handle) : Asks (Target.typeFacts type)
  | fields (type : Handle) : Asks (Target.fields type)
  | fieldFacts (field : Handle) : Asks (Target.fieldFacts field)
  | methods (type : Handle) : Asks (Target.methods type)
  | methodFacts (method : Handle) : Asks (Target.methodFacts method)
  | lineTable (method : Handle) : Asks (Target.lineTable method)
  | variableTable (method : Handle) : Asks (Target.variableTable method)
  | allThreads : Asks Target.allThreads
  | threadFacts (thread : Handle) : Asks (Target.threadFacts thread)
  | topLevelGroups : Asks Target.topLevelGroups
  | threadGroupFacts (group : Handle) : Asks (Target.threadGroupFacts group)
  | frames (thread : Handle) : Asks (Target.frames thread)
  | frameValue (frame : Handle) (slot : Int32) (tag : ValueTag) :
      Asks (Target.frameValue frame slot tag)
  | receiver (frame : Handle) : Asks (Target.receiver frame)
  | objectType (object : Handle) : Asks (Target.objectType object)
  | objectKind (object : Handle) : Asks (Target.objectKind object)
  | fieldValue (object field : Handle) : Asks (Target.fieldValue object field)
  | stringValue (string : Handle) : Asks (Target.stringValue string)
  | createString (text : String) : Asks (Target.createString text)
  | arrayLength (array : Handle) : Asks (Target.arrayLength array)
  | arrayValues (array : Handle) (first length : Nat) : Asks (Target.arrayValues array first length)
  | reflectedType (classObject : Handle) : Asks (Target.reflectedType classObject)

namespace Action

/-- Begun on a backend where `I` holds, the step ends on such a backend, and fails only as `E`
allows. -/
abbrev Keeps (I : Backend σ → Prop) (E : CommandError → Prop) (x : Action σ α) : Prop :=
  Attempt.Keeps (fun c : Call σ => I c.backend) E x

/-- A condition bears what every command may do: read, ask the target and work on the table. -/
structure Bears [Target σ] (I : Backend σ → Prop) (E : CommandError → Prop) : Prop where
  registry : ∀ b r, I b → I { b with registry := r }
  asked : ∀ {α : Type} {x : TargetCall σ α}, Target.Asks x → ∀ b, I b →
    I { b with target := (x.run b.target).2 } ∧
      ∀ e, (x.run b.target).1 = .error e → E (.ofTarget e)
  told : ∀ e : CommandError, e.Told → E e

variable {I : Backend σ → Prop} {E : CommandError → Prop}

/-- An edit of the backend is kept by what it leads from `I` to `I`. -/
theorem keeps_edit {f : Backend σ → Backend σ} (hf : ∀ b, I b → I (f b)) : Keeps I E (edit f) :=
  fun c hc => ⟨hf c.backend hc, nofun⟩

/-- To look at the backend is to leave it alone. -/
theorem keeps_backend : Keeps I E (backend : Action σ (Backend σ)) := Attempt.Keeps.get.map _

/-- What is kept once is kept any number of times; the payload tells how often. -/
theorem keeps_times {x : Action σ α} (hx : Keeps I E x) : ∀ n, Keeps I E (times n x)
  | 0 => .pure _
  | n + 1 => hx.bind fun _ => (keeps_times hx n).bind fun _ => .pure _

/-- A list is written item by item, behind its length. -/
theorem keeps_list {item : α → Action σ Body} (hitem : ∀ a, Keeps I E (item a)) (xs : List α) :
    Keeps I E (list xs item) := (Attempt.Keeps.mapM hitem xs).bind fun _ => .pure _

/-! ### Reading -/

section Reading

variable (hblames : ∀ e : CommandError, e.Blames → E e)

include hblames

/-- Reading moves on in the payload, and nowhere else. -/
theorem keeps_read (x : Read α) : Keeps I E (read x : Action σ α) :=
  (Attempt.Keeps.trivial x).within (fun _ _ => .intro) (fun _ _ hs _ => hs) fun e _ =>
    hblames _ (.malformed e)

/-- The same, with the table at hand to resolve what is read. -/
theorem keeps_decode {x : Registry → Decode α} (hx : ∀ r, (x r).Blames) :
    Keeps I E (decode x : Action σ α) :=
  keeps_backend.bind fun b =>
    (hx b.registry).within (fun _ _ => .intro) (fun _ _ hs _ => hs) hblames

theorem keeps_entity (kind : EntityKind) : Keeps I E (entity kind : Action σ Handle) :=
  keeps_decode hblames fun _ => Registry.blames_readEntity kind

end Reading

namespace Bears

variable [Target σ] (h : Bears I E)

include h

/-- Whoever bears what has a code bears what the payload is to blame for. -/
theorem blames (e : CommandError) (he : e.Blames) : E e := h.told e he.told

theorem read (x : Read α) : Keeps I E (Action.read x : Action σ α) := keeps_read h.blames x

theorem entity (kind : EntityKind) : Keeps I E (Action.entity kind : Action σ Handle) :=
  keeps_entity h.blames kind

/-- Looking something up in the table changes nothing, and fails with a code. -/
theorem lookUp {f : Registry → Except CommandError α} (hf : ∀ r e, f r = .error e → e.Told) :
    Keeps I E (Action.lookUp f : Action σ α) :=
  keeps_backend.bind fun b => .ofExcept fun e he => h.told e (hf b.registry e he)

/-- Work on the table cannot fail, and `I` holds with any table. -/
theorem work (f : Registry → α × Registry) : Keeps I E (Action.registry f : Action σ α) :=
  .ofStep fun c hc => h.registry c.backend _ hc

/-- Work on the table that may be refused comes to nothing then. -/
theorem tryRegistry {f : Registry → Except CommandError Registry}
    (hf : ∀ r e, f r = .error e → e.Told) : Keeps I E (Action.tryRegistry f : Action σ Unit) :=
  (h.lookUp hf).bind fun _ => h.work _

/-- **A call on the target** may change it, and fail as it likes; that is what bearing it is about.
-/
theorem ask {x : TargetCall σ α} (hx : Target.Asks x) : Keeps I E (Action.call x) := by
  intro c hc
  rw [Action.call, Attempt.run_within]
  obtain ⟨hkept, hfails⟩ := h.asked hx c.backend hc
  refine ⟨hkept, fun e he => ?_⟩
  cases hrun : (x.run c.backend.target).1 with
  | error e' =>
    rw [hrun] at he
    exact Except.error.inj he ▸ hfails e' hrun
  | ok a =>
    rw [hrun] at he
    cases he

theorem throw {e : CommandError} (he : e.Told) :
    Keeps I E (MonadExcept.throw e : Action σ α) := Attempt.Keeps.throw (h.told e he)

/-- A refusal of a command's own has a code. -/
theorem guard {p : Prop} [Decidable p] {e : CommandError} {rest : Action σ α} (he : e.Told)
    (hrest : Keeps I E rest) :
    Keeps I E
      (if p then (MonadExcept.throw e : Action σ PUnit) >>= fun _ => rest else rest) :=
  Attempt.Keeps.guard (h.told e he) hrest

/-! ### Ids in, ids out -/

/-- The id of a type is read and resolved, whatever sort of type it is. -/
theorem type : Keeps I E (Action.type : Action σ Handle) :=
  (keeps_decode h.blames fun _ => Registry.blames_readType).bind fun _ => .pure _

theorem idOf (handle : Handle) (kind : EntityKind) :
    Keeps I E (Action.idOf handle kind : Action σ Body) := (h.work _).map _

theorem idOf? (handle : Option Handle) (kind : EntityKind) :
    Keeps I E (Action.idOf? handle kind : Action σ Body) := (h.work _).map _

/-- A value is written with its tag, and gets an id if it is a reference. -/
theorem tagged (v : TargetValue) : Keeps I E (Action.tagged v : Action σ Body) := (h.work _).map _

theorem untagged (v : TargetValue) : Keeps I E (Action.untagged v : Action σ Body) :=
  (h.work _).map _

/-- The target is asked for the sort of a type only if the table does not know it yet. -/
theorem typeRef (type : Handle) : Keeps I E (Action.typeRef type : Action σ TypeRef) := by
  refine (h.work _).bind fun known => ?_
  cases known with
  | some t => exact .pure t
  | none => exact (h.ask (.typeFacts type)).bind fun _ => h.work _

theorem typeOf (type : Handle) : Keeps I E (Action.typeOf type : Action σ Body) :=
  (h.typeRef type).map _

/-- A place in code names the method and the type that declares it. -/
theorem place (method : Handle) (index : UInt64) :
    Keeps I E (Action.place method index : Action σ Body) :=
  (h.ask (.methodFacts method)).bind fun _ => (h.typeRef _).bind fun _ => (h.work _).bind fun _ =>
    .pure _

end Bears
end Action

/-! ## Each command -/

/-- Whether the command changes more than the table and the target. -/
def Command.changesSession : Command → Bool
  | .dispose | .suspend | .resume | .suspendThread | .resumeThread | .setRequest | .clearRequest
  | .clearBreakpoints => true
  | _ => false

namespace Answer

open DebugWire.Action

variable {I : Backend σ → Prop} {E : CommandError → Prop}

theorem keeps_isSuspended (thread : Handle) : Keeps I E (isSuspended thread : Action σ Bool) :=
  keeps_backend.bind fun _ => .pure _

/-- A kind of event that is none is malformed. -/
theorem keeps_eventKind (hblames : ∀ e : CommandError, e.Blames → E e) :
    Keeps I E (eventKind : Action σ EventKind) := by
  refine (keeps_read hblames _).bind fun raw => ?_
  cases EventKind.ofNumber? raw with
  | some kind => exact .pure kind
  | none => exact .throw (hblames _ (.malformed _))

/-- So is a policy that is none. -/
theorem keeps_suspendPolicy (hblames : ∀ e : CommandError, e.Blames → E e) :
    Keeps I E (suspendPolicy : Action σ SuspendPolicy) := by
  refine (keeps_read hblames _).bind fun raw => .ofExcept fun e he => hblames e ?_
  cases hpolicy : SuspendPolicy.ofNumber raw with
  | ok policy =>
    rw [hpolicy] at he
    cases he
  | error e' =>
    rw [hpolicy] at he
    exact Except.error.inj he ▸ .malformed e'

/-! ### Types -/

section

variable [Target σ] (h : Bears I E)

include h

/-- What is asked of a type is told by its facts, or not at all. -/
theorem keeps_factsOfType : Keeps I E (factsOfType : Action σ TypeFacts) :=
  h.type.bind fun type => h.ask (.typeFacts type)

theorem keeps_withFacts (type : Handle) :
    Keeps I E (withFacts type : Action σ (Handle × TypeFacts)) :=
  (h.ask (.typeFacts type)).bind fun _ => .pure _

/-- All classes are asked for their facts before the first gets an id. -/
theorem keeps_classesBySignature : Keeps I E (classesBySignature : Action σ Body) := by
  refine (h.read _).bind fun signature => (h.ask .allClasses).bind fun types => ?_
  refine (Attempt.Keeps.mapM (keeps_withFacts h) types).bind fun classes => ?_
  exact keeps_list (fun _ => (h.work _).bind fun _ => .pure _) _

/-- Each class in turn is asked for its facts and gets an id. -/
theorem keeps_allClasses : Keeps I E (allClasses : Action σ Body) :=
  (h.ask .allClasses).bind fun types => keeps_list (fun type =>
    (h.ask (.typeFacts type)).bind fun _ => (h.work _).bind fun _ => .pure _) types

/-- Fields and methods are told alike: by an id, a name, a signature and modifiers. -/
theorem keeps_member (kind : EntityKind) {facts : Handle → TargetCall σ MemberFacts}
    (hfacts : ∀ m, Target.Asks (facts m)) (m : Handle) : Keeps I E (member kind facts m) :=
  (h.ask (hfacts m)).bind fun _ => (h.idOf m kind).bind fun _ => .pure _

theorem keeps_fields : Keeps I E (fields : Action σ Body) :=
  h.type.bind fun type => (h.ask (.fields type)).bind fun fields =>
    keeps_list (keeps_member h .field .fieldFacts) fields

theorem keeps_methods : Keeps I E (methods : Action σ Body) :=
  h.type.bind fun type => (h.ask (.methods type)).bind fun methods =>
    keeps_list (keeps_member h .method .methodFacts) methods

/-- A type that came from no file is refused with a code. -/
theorem keeps_sourceFile : Keeps I E (sourceFile : Action σ Bytes) := by
  refine (keeps_factsOfType h).bind fun facts => ?_
  split
  · exact .pure _
  · exact h.throw nofun

/-- An interface or an array is refused as an id that is no class. -/
theorem keeps_superclass : Keeps I E (superclass : Action σ Body) := by
  refine (h.read _).bind fun id => ?_
  refine (h.lookUp fun _ _ he => (Registry.blames_of_resolveType he).told).bind fun t => ?_
  obtain ⟨type, tag⟩ := t
  refine h.guard nofun ((h.ask (.typeFacts type)).bind fun facts => ?_)
  cases facts.superclass with
  | some parent => exact (h.typeRef parent).bind fun _ => .pure _
  | none => exact .pure _

/-- The method is to be one that the type declares. -/
theorem keeps_method : Keeps I E (method : Action σ Handle) := by
  refine h.type.bind fun type => (h.read _).bind fun id => ?_
  refine (h.lookUp fun _ _ he => (Registry.blames_of_resolve he).told).bind fun method => ?_
  exact (h.ask (.methodFacts method)).bind fun _ => h.guard nofun (.pure _)

/-! ### Objects, strings and arrays -/

/-- All fields are resolved before the first value is asked for. -/
theorem keeps_fieldValues : Keeps I E (fieldValues : Action σ Body) := by
  refine (h.entity _).bind fun object => (h.read _).bind fun n => ?_
  refine (keeps_times (h.entity _) n).bind fun fields => keeps_list (fun field => ?_) fields
  exact (h.ask (.fieldValue object field)).bind fun v => h.tagged v

/-- An array type without a component may be met. -/
theorem keeps_arrayValues (hcomponent : ∀ reason, E (.internal reason)) :
    Keeps I E (arrayValues : Action σ Body) := by
  refine (h.entity _).bind fun array => (h.read _).bind fun first => ?_
  refine (h.read _).bind fun length => (h.ask (.arrayLength array)).bind fun size => ?_
  cases region first length size with
  | error code => exact h.throw nofun
  | ok where_ =>
    refine (h.ask (.objectType array)).bind fun type => ?_
    refine (h.ask (.typeFacts type)).bind fun facts => ?_
    cases componentTag? facts.signature with
    | none => exact .throw (hcomponent _)
    | some tag =>
      refine (h.ask (.arrayValues array where_.1 where_.2)).bind fun values => ?_
      exact (keeps_list (fun v => .ite (h.untagged v) (h.tagged v)) values).bind fun _ => .pure _

/-! ### Threads, their groups and their stacks -/

/-- Only a suspended thread shows its stack. -/
theorem keeps_stackOf (thread : Handle) :
    Keeps I E (stackOf thread : Action σ (List FrameFacts)) :=
  (keeps_isSuspended thread).bind fun _ => h.guard nofun (h.ask (.frames thread))

/-- The frames of a page get ids, and so do the places where they are. -/
theorem keeps_frames : Keeps I E (frames : Action σ Body) := by
  refine (h.entity _).bind fun thread => (h.read _).bind fun start => ?_
  refine (h.read _).bind fun length => (keeps_stackOf h thread).bind fun stack => ?_
  cases page start length stack with
  | error code => exact h.throw nofun
  | ok selected =>
    refine keeps_list (fun f => ?_) selected
    exact (h.idOf _ _).bind fun _ => (h.place f.method f.index).bind fun _ => .pure _

theorem keeps_factsOfGroup : Keeps I E (factsOfGroup : Action σ ThreadGroupFacts) :=
  (h.entity _).bind fun group => h.ask (.threadGroupFacts group)

/-- A frame is to be one of a suspended thread, and still on its stack. -/
theorem keeps_frame : Keeps I E (frame : Action σ Handle) := by
  refine (h.entity _).bind fun thread => (h.read _).bind fun id => ?_
  refine (h.lookUp fun _ _ he => (Registry.blames_of_resolve he).told).bind fun frame => ?_
  exact (keeps_stackOf h thread).bind fun _ => h.guard nofun (.pure _)

/-- All slots are read before the first value is asked for. -/
theorem keeps_frameValues : Keeps I E (frameValues : Action σ Body) := by
  refine (keeps_frame h).bind fun frame => (h.read _).bind fun n => ?_
  refine (keeps_times ((h.read _).bind fun _ => (h.read _).bind fun _ => .pure _) n).bind
    fun slots => keeps_list (fun (slot, tag) => ?_) slots
  exact (h.ask (.frameValue frame slot tag)).bind fun v => h.tagged v

/-- Static code runs on nothing, and that is told as null. -/
theorem keeps_frameReceiver : Keeps I E (frameReceiver : Action σ Body) := by
  refine (keeps_frame h).bind fun frame => (h.ask (.receiver frame)).bind fun receiver => ?_
  cases receiver with
  | some object => exact (h.ask (.objectKind object)).bind fun kind => h.tagged _
  | none => exact h.tagged .null

/-! ### The session, and event requests -/

/-- Each item is acted on as soon as it is read. -/
theorem keeps_disposeObjects : Keeps I E (disposeObjects : Action σ Bytes) := by
  refine (h.read _).bind fun n => (keeps_times ?_ n).bind fun _ => .pure _
  exact (h.read _).bind fun id => (h.read _).bind fun count => h.work _

end

variable (htarget : ∀ b b' : Backend σ, b'.target = b.target → I b → I b')

include htarget

/-- What depends on the target only is kept by suspending and resuming, -/
theorem keeps_editSuspension (f : Suspension → Suspension) :
    Keeps I E (editSuspension f : Action σ Unit) := keeps_edit fun b => htarget b _ rfl

/-- and by work on the requests. -/
theorem keeps_onRequests (f : RequestTable → α × RequestTable) :
    Keeps I E (onRequests f : Action σ α) := .ofStep fun c => htarget c.backend _ rfl

variable [Target σ]

/-- A thread that runs again loses its frames, so the table is worked on too. -/
theorem keeps_resumeThread (h : Bears I E) : Keeps I E (resumeThread : Action σ Bytes) := by
  refine (h.entity _).bind fun thread => (keeps_editSuspension htarget _).bind fun _ => ?_
  refine (keeps_isSuspended thread).bind fun suspended => ?_
  exact .ite ((h.work _).bind fun _ => .pure _) (.pure _)

/-- Every filter is resolved before the request is set. -/
theorem keeps_setRequest (h : Bears I E) : Keeps I E (setRequest : Action σ Bytes) := by
  refine (keeps_eventKind h.blames).bind fun kind => ?_
  refine (keeps_suspendPolicy h.blames).bind fun policy => ?_
  refine (h.read _).bind fun n => ?_
  refine (keeps_times (keeps_decode h.blames Modifier.blames_read) n).bind fun modifiers => ?_
  exact (keeps_onRequests htarget _).map _

theorem keeps_clearRequest (h : Bears I E) : Keeps I E (clearRequest : Action σ Bytes) :=
  (keeps_eventKind h.blames).bind fun _ => (h.read _).bind fun _ =>
    (keeps_onRequests htarget _).bind fun _ => .pure _

end Answer

/-- **What every command may do, and nothing else, is done by a command that leaves the session
alone.**  One that changes it keeps what depends on the target only. -/
theorem Command.keeps_answer [Target σ] {I : Backend σ → Prop} {E : CommandError → Prop}
    (h : Action.Bears I E) (c : Command)
    (hsession : c.changesSession → ∀ b b' : Backend σ, b'.target = b.target → I b → I b')
    (hcomponent : c = .arrayValues → ∀ reason, E (.internal reason)) :
    Action.Keeps I E (c.answer : Action σ Body) := by
  open DebugWire.Answer DebugWire.Action in
  cases c with
  | version => exact (keeps_backend.bind fun _ => .pure _).map _
  | classesBySignature => exact keeps_classesBySignature h
  | allClasses => exact keeps_allClasses h
  | allThreads => exact (h.ask .allThreads).bind fun threads => keeps_list (h.idOf · _) threads
  | topLevelGroups =>
    exact (h.ask .topLevelGroups).bind fun groups => keeps_list (h.idOf · _) groups
  | dispose =>
    have hedit : Action.Keeps I E (edit Backend.dispose) :=
      keeps_edit fun b => hsession rfl b _ rfl
    exact (hedit.bind fun _ => .pure _).map _
  | idSizes => exact (Attempt.Keeps.pure _).map _
  | suspend => exact ((keeps_editSuspension (hsession rfl) _).bind fun _ => .pure _).map _
  | resume =>
    refine Attempt.Keeps.map ((h.work _).bind fun _ => ?_) _
    exact (keeps_editSuspension (hsession rfl) _).bind fun _ => .pure _
  | createString =>
    exact (h.read _).bind fun text => (h.ask (.createString text)).bind fun _ => h.idOf _ _
  | capabilities => exact (keeps_backend.bind fun _ => .pure _).map _
  | disposeObjects => exact (keeps_disposeObjects h).map _
  | capabilitiesNew => exact (keeps_backend.bind fun _ => .pure _).map _
  | typeSignature => exact ((keeps_factsOfType h).bind fun _ => .pure _).map _
  | classLoader => exact (keeps_factsOfType h).bind fun _ => h.idOf? _ _
  | typeModifiers => exact ((keeps_factsOfType h).bind fun _ => .pure _).map _
  | fields => exact keeps_fields h
  | methods => exact keeps_methods h
  | sourceFile => exact (keeps_sourceFile h).map _
  | typeStatus => exact ((keeps_factsOfType h).bind fun _ => .pure _).map _
  | superclass => exact keeps_superclass h
  | lineTable =>
    exact ((keeps_method h).bind fun m => (h.ask (.lineTable m)).bind fun _ => .pure _).map _
  | variableTable =>
    exact ((keeps_method h).bind fun m => (h.ask (.variableTable m)).bind fun _ => .pure _).map _
  | objectType =>
    exact (h.entity _).bind fun object => (h.ask (.objectType object)).bind fun _ => h.typeOf _
  | fieldValues => exact keeps_fieldValues h
  | disableCollection =>
    refine Attempt.Keeps.map ((h.read _).bind fun _ => ?_) _
    exact (h.tryRegistry fun _ _ => Registry.told_of_disableCollection).bind fun _ => .pure _
  | enableCollection =>
    refine Attempt.Keeps.map ((h.read _).bind fun _ => ?_) _
    exact (h.tryRegistry fun _ _ => Registry.told_of_enableCollection).bind fun _ => .pure _
  | isCollected =>
    refine Attempt.Keeps.map ((h.read _).bind fun _ => ?_) _
    exact (h.lookUp fun _ _ => Registry.told_of_isCollected).bind fun _ => .pure _
  | stringValue =>
    exact ((h.entity _).bind fun s => (h.ask (.stringValue s)).bind fun _ => .pure _).map _
  | threadName =>
    exact ((h.entity _).bind fun t => (h.ask (.threadFacts t)).bind fun _ => .pure _).map _
  | suspendThread =>
    refine Attempt.Keeps.map ((h.entity _).bind fun _ => ?_) _
    exact (keeps_editSuspension (hsession rfl) _).bind fun _ => .pure _
  | resumeThread => exact (keeps_resumeThread (hsession rfl) h).map _
  | threadStatus =>
    refine Attempt.Keeps.map ((h.entity _).bind fun t => ?_) _
    exact (h.ask (.threadFacts t)).bind fun _ => (keeps_isSuspended t).bind fun _ => .pure _
  | threadGroup =>
    exact (h.entity _).bind fun t => (h.ask (.threadFacts t)).bind fun _ => h.idOf _ _
  | frames => exact keeps_frames h
  | frameCount =>
    exact ((h.entity _).bind fun t => (keeps_stackOf h t).bind fun _ => .pure _).map _
  | suspendCount =>
    exact ((h.entity _).bind fun _ => keeps_backend.bind fun _ => .pure _).map _
  | groupName => exact ((keeps_factsOfGroup h).bind fun _ => .pure _).map _
  | groupParent => exact (keeps_factsOfGroup h).bind fun _ => h.idOf? _ _
  | arrayLength =>
    exact ((h.entity _).bind fun a => (h.ask (.arrayLength a)).bind fun _ => .pure _).map _
  | arrayValues => exact keeps_arrayValues h (hcomponent rfl)
  | setRequest => exact (keeps_setRequest (hsession rfl) h).map _
  | clearRequest => exact (keeps_clearRequest (hsession rfl) h).map _
  | clearBreakpoints =>
    exact ((keeps_onRequests (hsession rfl) _).bind fun _ => .pure _).map _
  | frameValues => exact keeps_frameValues h
  | frameReceiver => exact keeps_frameReceiver h
  | reflectedType =>
    exact (h.entity _).bind fun object => (h.ask (.reflectedType object)).bind fun _ => h.typeOf _

end DebugWire

import DebugWire.Proofs.Registry.Fate
import DebugWire.Registry.Exchange

/-!
# Proofs/Registry/Operation — the calls of the registry, all at once

An `Operation` is a call of the registry from outside, with its arguments; `Operation.perform` gives
the answer and the table afterwards.  `WellFormed.evolves_perform` says of all of them at once what
becomes of the entries: `Operation.fate` is the fate of the living, `Operation.newcomer?` what comes
in.
-/

namespace DebugWire

namespace Registry

/-- The id of a type.  What the target says of its tag counts only where no tag is known. -/
def registerType (r : Registry) (handle : Handle) (facts : Except TargetError TypeTag) :
    Except TargetError TypeRef × Registry :=
  match r.knownType handle, facts with
  | (some t, r), _ => (.ok t, r)
  | (none, r), .error refusal => (.error refusal, r)
  | (none, r), .ok tag => ((r.registerTagged handle tag).map .ok id)

end Registry

/-- The sort of object that an entity passes for on the wire. -/
def EntityKind.objectKind : EntityKind → ObjectKind
  | .object kind => kind
  | _ => .plain

/-! ## Operations -/

/-- A call of the registry. -/
inductive Operation where
  | register (handle : Handle) (kind : EntityKind)
  | registerOptional (handle : Option Handle) (kind : EntityKind)
  | registerType (handle : Handle) (facts : Except TargetError TypeTag)
  | registerTagged (handle : Handle) (tag : TypeTag)
  | toWire (value : TargetValue)
  | dispose (id : WireId)
  | disposeObjects (id : WireId) (count : Nat)
  | entityFreed (handle : Handle)
  | sweep
  | disableCollection (id : WireId)
  | enableCollection (id : WireId)
  | invalidateFrames
  | disposeAll
  | resolve (id : WireId) (expected : EntityKind)
  | resolveOptional (id : WireId) (expected : EntityKind)
  | resolveType (id : WireId)
  | kindOf (id : WireId)
  | isCollected (id : WireId)
  | fromWire (value : WireValue)
  | liveCount
  | trackedCount

/-- What a call gives back. -/
inductive Outcome where
  | nothing
  | id (id : WireId)
  | typeRef (type : Except TargetError TypeRef)
  | wire (value : WireValue)
  | verdict (verdict : Except CommandError Unit)
  | handle (handle : Except CommandError Handle)
  | optional (handle : Except CommandError (Option Handle))
  | typed (type : Except CommandError (Handle × TypeTag))
  | kind (kind : Option EntityKind)
  | collected (gone : Except CommandError Bool)
  | value (value : Except CommandError TargetValue)
  | count (n : Nat)

/-- The id that an answer hands out. -/
def Outcome.id? : Outcome → Option WireId
  | .id i => some i
  | .typeRef (.ok type) => some type.id
  | .wire (.object _ i) => some i
  | _ => none

namespace Operation

/-- Carry out a call. -/
def perform (r : Registry) : Operation → Outcome × Registry
  | .register handle kind => (r.register handle kind).map .id id
  | .registerOptional handle kind => (r.registerOptional handle kind).map .id id
  | .registerType handle facts => (r.registerType handle facts).map .typeRef id
  | .registerTagged handle tag => (r.registerTagged handle tag).map (.typeRef ∘ .ok) id
  | .toWire value => (r.toWire value).map .wire id
  | .dispose id => (.nothing, r.dispose id)
  | .disposeObjects id count => (.nothing, r.disposeObjects id count)
  | .entityFreed handle => (.nothing, r.entityFreed handle)
  | .sweep => r.sweep.map .count id
  | .disableCollection id =>
      (.verdict ((r.disableCollection id).map fun _ => ()), r.settle (r.disableCollection id))
  | .enableCollection id =>
      (.verdict ((r.enableCollection id).map fun _ => ()), r.settle (r.enableCollection id))
  | .invalidateFrames => (.nothing, r.invalidateFrames)
  | .disposeAll => (.nothing, r.disposeAll)
  | .resolve id expected => (.handle (r.resolve id expected), r)
  | .resolveOptional id expected => (.optional (r.resolveOptional id expected), r)
  | .resolveType id => (.typed (r.resolveType id), r)
  | .kindOf id => (.kind (r.kindOf? id), r)
  | .isCollected id => (.collected (r.isCollected id), r)
  | .fromWire value => (.value (r.fromWire value), r)
  | .liveCount => (.count r.liveCount, r)
  | .trackedCount => (.count r.trackedCount, r)

/-- The entity that a registration is of. -/
def subject? : Operation → Option (Handle × EntityKind)
  | .register handle kind => some (handle, kind)
  | .registerOptional handle kind => handle.map (·, kind)
  | .registerType handle _ => some (handle, .referenceType)
  | .registerTagged handle _ => some (handle, .referenceType)
  | .toWire (.reference kind handle) => handle.map (·, kind)
  | _ => none

/-- The call may make an id, and does nothing else. -/
def registers : Operation → Bool
  | .register .. | .registerOptional .. | .registerType .. | .registerTagged .. | .toWire _ => true
  | _ => false

/-- The call registers an object. -/
def registersObject (op : Operation) : Bool := op.subject?.any (·.2.isObject)

/-- The call may make an id, of anything but an object, and does nothing else. -/
def registersOther (op : Operation) : Bool := op.registers && !op.registersObject

/-- The tag that a registration brings along. -/
def tag? : Operation → Option TypeTag
  | .registerType _ (.ok tag) => some tag
  | .registerTagged _ tag => some tag
  | _ => none

/-- A type can be registered only if the target tells its tag. -/
def refused : Operation → Bool
  | .registerType _ (.error _) => true
  | _ => false

/-- The entry that comes in with an operation. -/
def newcomer? (op : Operation) (r : Registry) : Option Entry :=
  match op.subject?, op.refused with
  | some (handle, kind), false => r.newcomer? handle kind op.tag?
  | _, _ => none

/-- What an operation makes of a living entry. -/
def fate : Operation → Entry → Option Entry
  | .register handle kind, e =>
      some (if e.key = ⟨IdSpace.of kind, handle⟩ then e.again kind none else e)
  | .registerOptional (some handle) kind, e =>
      some (if e.key = ⟨IdSpace.of kind, handle⟩ then e.again kind none else e)
  | .registerType handle facts, e =>
      some (if e.key = ⟨.referenceTypes, handle⟩ then
        match e.typeTag, facts with
        | none, .ok tag => e.counted.again .referenceType (some tag)
        | _, _ => e.counted
      else e)
  | .registerTagged handle tag, e =>
      some (if e.key = ⟨.referenceTypes, handle⟩ then e.again .referenceType (some tag) else e)
  | .toWire (.reference kind (some handle)), e =>
      some (if e.key = ⟨IdSpace.of kind, handle⟩ then e.again kind none else e)
  | .dispose id, e => if e.id = id then none else some e
  | .disposeObjects id count, e =>
      if e.id = id ∧ e.kind.isObject then e.returned count else some e
  | .entityFreed handle, e => if e.handle = handle then e.bereaved else some e
  | .disableCollection id, e => some (if e.id = id ∧ e.kind.isObject then e.pinned else e)
  | .enableCollection id, e => if e.id = id ∧ e.kind.isObject then e.unpinned else some e
  | .invalidateFrames, e => if e.kind = .frame then none else some e
  | .disposeAll, _ => none
  | _, e => some e

end Operation

theorem Entry.Becomes.of_named {e x y : Entry} {name : EntityKey}
    (hy : e.key = name → e.Becomes y) (h : some (if e.key = name then y else e) = some x) :
    e.Becomes x := by
  obtain rfl := Option.some.inj h
  split
  · exact hy ‹_›
  · exact .refl e

/-- What holds of an entry, and of what it becomes under a condition. -/
theorem Entry.of_ite {P : Entry → Prop} {e x : Entry} {c : Prop} [Decidable c] {o : Option Entry}
    (he : P e) (ho : o = some x → P x) (h : (if c then o else some e) = some x) : P x := by
  split at h
  · exact ho h
  · exact Option.some.inj h ▸ he

/-- No fate gives an entry another id or another name. -/
theorem Operation.becomes_of_fate {op : Operation} {e x : Entry} (h : op.fate e = some x) :
    e.Becomes x := by
  cases op with
  | register handle kind => exact .of_named (fun hname => .again hname none) h
  | registerOptional handle kind =>
    cases handle with
    | none => exact Option.some.inj h ▸ .refl e
    | some handle => exact .of_named (fun hname => .again hname none) h
  | registerType handle facts =>
    refine .of_named (fun hname => ?_) h
    split
    · have hname' : e.counted.key = ⟨IdSpace.of .referenceType, handle⟩ := hname
      exact ⟨rfl, (Entry.Becomes.again hname' _).key⟩
    · exact ⟨rfl, rfl⟩
  | registerTagged handle tag =>
    refine .of_named (fun hname => ?_) h
    have hname' : e.key = ⟨IdSpace.of .referenceType, handle⟩ := hname
    exact .again hname' _
  | toWire value =>
    cases value with
    | primitive p => exact Option.some.inj h ▸ .refl e
    | reference kind handle =>
      cases handle with
      | none => exact Option.some.inj h ▸ .refl e
      | some handle => exact .of_named (fun hname => .again hname none) h
  | dispose id => exact Entry.of_ite (o := none) (.refl e) nofun h
  | disposeObjects id count => exact Entry.of_ite (.refl e) Entry.Becomes.of_returned h
  | entityFreed handle => exact Entry.of_ite (.refl e) Entry.Becomes.of_bereaved h
  | disableCollection id =>
    obtain rfl := Option.some.inj h
    split
    · exact ⟨rfl, rfl⟩
    · exact .refl e
  | enableCollection id => exact Entry.of_ite (.refl e) Entry.Becomes.of_unpinned h
  | invalidateFrames => exact Entry.of_ite (o := none) (.refl e) nofun h
  | disposeAll => exact absurd h nofun
  | _ => exact Option.some.inj h ▸ .refl e

namespace Operation

theorem registers_of_subject {op : Operation} {subject : Handle × EntityKind}
    (h : op.subject? = some subject) : op.registers := by
  cases op with
  | register | registerOptional | registerType | registerTagged | toWire => rfl
  | _ => exact absurd h nofun

/-- What makes ids takes none away. -/
theorem exists_fate_of_registers {op : Operation} (h : op.registers) (e : Entry) :
    ∃ x, op.fate e = some x := by
  cases op with
  | register => exact ⟨_, rfl⟩
  | registerOptional handle => cases handle <;> exact ⟨_, rfl⟩
  | registerType => exact ⟨_, rfl⟩
  | registerTagged => exact ⟨_, rfl⟩
  | toWire value =>
    cases value with
    | primitive => exact ⟨_, rfl⟩
    | reference kind handle => cases handle <;> exact ⟨_, rfl⟩
  | _ => exact absurd h nofun

end Operation

namespace Registry

variable {r : Registry}

/-! ## What comes in -/

/-- What comes in has the next id. -/
theorem id_of_newcomer? {op : Operation} {e : Entry} (h : op.newcomer? r = some e) :
    e.id = ⟨r.nextId⟩ := by
  unfold Operation.newcomer? newcomer? at h
  split at h
  · split at h
    · exact absurd h nofun
    · exact Option.some.inj h ▸ rfl
  · exact absurd h nofun

theorem newcomer?_of_subject {op : Operation} {handle : Handle} {k : EntityKind}
    (hsubject : op.subject? = some (handle, k)) (hasked : op.refused = false) :
    op.newcomer? r = r.newcomer? handle k op.tag? := by
  rw [Operation.newcomer?, hsubject, hasked]

/-- A name that has an id gets no other. -/
theorem newcomer?_eq_none {op : Operation} {handle : Handle} {k : EntityKind}
    (hsubject : op.subject? = some (handle, k))
    (hholder : r.holder? ⟨IdSpace.of k, handle⟩ ≠ none) : op.newcomer? r = none := by
  rw [Operation.newcomer?, hsubject]
  cases op.refused with
  | true => rfl
  | false => exact if_pos (Option.isSome_iff_ne_none.mpr hholder)

/-- What comes in is new, and so is its name. -/
theorem fresh_of_newcomer? {op : Operation} {handle : Handle} {k : EntityKind} {e : Entry}
    (hsubject : op.subject? = some (handle, k)) (h : op.newcomer? r = some e) :
    r.holder? ⟨IdSpace.of k, handle⟩ = none ∧ .fresh ⟨r.nextId⟩ handle k op.tag? = e := by
  unfold Operation.newcomer? newcomer? at h
  rw [hsubject] at h
  split at h
  · next hsome _ =>
    obtain ⟨rfl, rfl⟩ := Prod.mk.inj (Option.some.inj hsome)
    split at h
    · simp at h
    · next hholder => exact ⟨by simpa using hholder, Option.some.inj h⟩
  · simp at h

/-- Only a registration brings something in. -/
theorem exists_subject_of_newcomer? {op : Operation} {e : Entry} (h : op.newcomer? r = some e) :
    ∃ handle kind, op.subject? = some (handle, kind) ∧
      e = .fresh ⟨r.nextId⟩ handle kind op.tag? := by
  cases hsubject : op.subject? with
  | none =>
    rw [Operation.newcomer?, hsubject] at h
    exact absurd h nofun
  | some subject => exact ⟨subject.1, subject.2, rfl, (fresh_of_newcomer? hsubject h).2.symm⟩

/-! ## What becomes of the rest -/

/-- What a value that refers to an entity is on the wire. -/
theorem toWire_reference (kind : EntityKind) (handle : Option Handle) :
    r.toWire (.reference kind handle) =
      (.object kind.objectKind (r.registerOptional handle kind).1,
        (r.registerOptional handle kind).2) := by
  cases kind <;> rfl

/-- Where nothing has a name, it does not matter what its holder would become. -/
theorem WellFormed.congr_unnamed (h : r.WellFormed) {s : Registry} {f g : Entry → Option Entry}
    {new : Option Entry} {name : EntityKey} (hn : r.named? name = none)
    (hfg : ∀ e, e.key ≠ name → f e = g e) (hs : Evolves f new r s) : Evolves g new r s :=
  hs.congr fun id e he => hfg e (h.named?_eq_none_iff.mp hn id e he)

/-- The answer to the registration of a type.  The target's refusal matters only where no tag is
known. -/
def typeAnswer (r : Registry) (handle : Handle) (facts : Except TargetError TypeTag) :
    Except TargetError TypeRef :=
  match (r.holder? ⟨.referenceTypes, handle⟩).bind (·.typeTag) with
  | some tag => .ok ⟨tag, r.idFor ⟨.referenceTypes, handle⟩⟩
  | none => facts.map (⟨·, r.idFor ⟨.referenceTypes, handle⟩⟩)

/-- A type that nothing is known of is registered with the tag that the target tells. -/
theorem WellFormed.registerType_unnamed (h : r.WellFormed) {handle : Handle}
    {facts : Except TargetError TypeTag} (hn : r.named? ⟨.referenceTypes, handle⟩ = none)
    (hroom : (r.registerType handle facts).2.HasRoom) :
    Evolves (Operation.registerType handle facts).fate
      ((Operation.registerType handle facts).newcomer? r) r (r.registerType handle facts).2 ∧
    (r.registerType handle facts).1 = r.typeAnswer handle facts := by
  have hk : r.knownType handle = (none, r) := by simp [knownType, hn]
  have hholder : r.holder? ⟨.referenceTypes, handle⟩ = none := by rw [holder?, hn]; rfl
  unfold registerType at hroom ⊢
  rw [hk] at hroom ⊢
  cases facts with
  | error refusal =>
    refine ⟨h.congr_unnamed hn (fun e he => ?_) h.evolves_refl, ?_⟩
    · simp [Operation.fate, he]
    · rw [typeAnswer, hholder]
      rfl
  | ok tag =>
    obtain ⟨hevolves, hanswer⟩ := h.evolves_registerTagged handle tag hroom
    refine ⟨h.congr_unnamed hn (fun e he => ?_) hevolves, ?_⟩
    · simp [Operation.fate, he]
    · rw [typeAnswer, hholder]
      refine (congrArg Except.ok hanswer).trans ?_
      rw [typeRefFor, hholder]
      rfl

/-- Counting a type does not take its id away. -/
theorem WellFormed.holder?_knownType (h : r.WellFormed) {handle : Handle} {e : Entry}
    (hholder : r.holder? ⟨.referenceTypes, handle⟩ = some e) :
    (r.knownType handle).2.holder? ⟨.referenceTypes, handle⟩ = some e.counted := by
  obtain ⟨hlive, hname⟩ := h.holder?_eq_some_iff.mp hholder
  have hknown := (h.evolves_knownType handle).1
  rw [hknown.wellFormed.holder?_eq_some_iff, hknown.live?]
  refine ⟨?_, hname⟩
  simp [Entry.counted, hlive, hname]

/-- A type that has an id keeps it, and its tag if it has one. -/
theorem WellFormed.registerType_named (h : r.WellFormed) {handle : Handle}
    {facts : Except TargetError TypeTag} {key : SlotKey} {e : Entry}
    (hn : r.named? ⟨.referenceTypes, handle⟩ = some (key, e))
    (hroom : (r.registerType handle facts).2.HasRoom) :
    Evolves (Operation.registerType handle facts).fate
      ((Operation.registerType handle facts).newcomer? r) r (r.registerType handle facts).2 ∧
    (r.registerType handle facts).1 = r.typeAnswer handle facts := by
  have hholder : r.holder? ⟨.referenceTypes, handle⟩ = some e := by rw [holder?, hn]; rfl
  have hidFor : r.idFor ⟨.referenceTypes, handle⟩ = e.id := by rw [idFor, hholder]; rfl
  have hk : r.knownType handle = (e.typeTag.map (⟨·, e.id⟩), r.update key e.counted) := by
    simp [knownType, hn, Entry.counted]
  have hcounted := h.evolves_named hn Entry.counted rfl rfl rfl
  have hsame : ∀ i x, r.live? i = some x → x.key = ⟨.referenceTypes, handle⟩ → x = e := by
    intro i x hx hname
    rw [← h.id_of_live? hx] at hx
    exact Option.some.inj ((h.holder?_eq_some_iff.mpr ⟨hx, hname⟩).symm.trans hholder)
  have hnew : (Operation.registerType handle facts).newcomer? r = none :=
    newcomer?_eq_none (k := .referenceType) rfl (by simp [IdSpace.of, hholder])
  unfold registerType at hroom ⊢
  rw [hnew, typeAnswer, hholder, hidFor, Option.bind_some]
  rw [hk] at hroom ⊢
  cases htag : e.typeTag with
  | some t =>
    refine ⟨hcounted.congr fun i x hx => ?_, rfl⟩
    by_cases hname : x.key = ⟨.referenceTypes, handle⟩
    · simp [Operation.fate, hsame i x hx hname, htag]
    · simp [Operation.fate, hname]
  | none =>
    rw [htag] at hroom
    cases facts with
    | error refusal =>
      refine ⟨hcounted.congr fun i x hx => ?_, rfl⟩
      by_cases hname : x.key = ⟨.referenceTypes, handle⟩
      · simp [Operation.fate, hsame i x hx hname, htag]
      · simp [Operation.fate, hname]
    | ok tag =>
      obtain ⟨hagain, hanswer⟩ := hcounted.wellFormed.evolves_registerTagged handle tag hroom
      have hstill := h.holder?_knownType hholder
      rw [hk] at hstill
      have hnone : (r.update key e.counted).newcomer? handle .referenceType (some tag) = none := by
        rw [newcomer?, IdSpace.of, hstill]
        rfl
      rw [hnone] at hagain
      refine ⟨(hcounted.trans hagain).congr fun i x hx => ?_, ?_⟩
      · by_cases hname : x.key = ⟨.referenceTypes, handle⟩
        · have hname' : x.counted.key = ⟨.referenceTypes, handle⟩ := hname
          simp [Operation.fate, hsame i x hx hname ▸ hname, hsame i x hx hname ▸ hname', htag,
            hsame i x hx hname]
        · simp [Operation.fate, hname]
      · refine (congrArg Except.ok hanswer).trans ?_
        rw [typeRefFor, idFor, hstill, Option.bind_some, Entry.counted, htag]
        rfl

theorem WellFormed.evolves_registerType (h : r.WellFormed) (handle : Handle)
    (facts : Except TargetError TypeTag) (hroom : (r.registerType handle facts).2.HasRoom) :
    Evolves (Operation.registerType handle facts).fate
      ((Operation.registerType handle facts).newcomer? r) r (r.registerType handle facts).2 ∧
    (r.registerType handle facts).1 = r.typeAnswer handle facts := by
  cases hn : r.named? ⟨.referenceTypes, handle⟩ with
  | none => exact h.registerType_unnamed hn hroom
  | some found => exact h.registerType_named hn hroom

theorem WellFormed.evolves_registerOptional (h : r.WellFormed) (handle : Option Handle)
    (kind : EntityKind) (hroom : (r.registerOptional handle kind).2.HasRoom) :
    Evolves (Operation.registerOptional handle kind).fate
      ((Operation.registerOptional handle kind).newcomer? r) r
      (r.registerOptional handle kind).2 := by
  cases handle with
  | none => exact h.evolves_refl
  | some handle => exact (h.evolves_register handle kind hroom).1

theorem WellFormed.evolves_toWire (h : r.WellFormed) (value : TargetValue)
    (hroom : (r.toWire value).2.HasRoom) :
    Evolves (Operation.toWire value).fate ((Operation.toWire value).newcomer? r) r
      (r.toWire value).2 := by
  cases value with
  | primitive p => exact h.evolves_refl
  | reference kind handle =>
    rw [toWire_reference] at hroom ⊢
    cases handle with
    | none => exact h.evolves_refl
    | some handle => exact (h.evolves_register handle kind hroom).1

/-- **Every operation is a fate for the living and at most one newcomer.** -/
theorem WellFormed.evolves_perform (h : r.WellFormed) (op : Operation)
    (hroom : (op.perform r).2.HasRoom) :
    Evolves op.fate (op.newcomer? r) r (op.perform r).2 := by
  cases op with
  | register handle kind => exact (h.evolves_register handle kind hroom).1
  | registerOptional handle kind => exact h.evolves_registerOptional handle kind hroom
  | registerType handle facts => exact (h.evolves_registerType handle facts hroom).1
  | registerTagged handle tag => exact (h.evolves_registerTagged handle tag hroom).1
  | toWire value => exact h.evolves_toWire value hroom
  | dispose id => exact h.evolves_dispose id
  | disposeObjects id count => exact h.evolves_disposeObjects id count
  | entityFreed handle => exact h.evolves_entityFreed handle
  | sweep => exact h.evolves_sweep
  | disableCollection id => exact (h.evolves_disableCollection id).1
  | enableCollection id => exact (h.evolves_enableCollection id).1
  | invalidateFrames => exact h.evolves_invalidateFrames
  | disposeAll => exact h.evolves_disposeAll
  | _ => exact h.evolves_refl

/-! ## The counter -/

theorem later_settle {answer : Except CommandError Registry}
    (h : ∀ s, answer = .ok s → Later r s) : Later r (r.settle answer) := by
  cases answer with
  | error => rfl
  | ok s => exact h s rfl

theorem later_registerType (handle : Handle) (facts : Except TargetError TypeTag) :
    Later r (r.registerType handle facts).2 := by
  have hknown := later_knownType (r := r) handle
  unfold registerType
  split
  · next hk => exact (congrArg Prod.snd hk) ▸ hknown
  · next hk => exact (congrArg Prod.snd hk) ▸ hknown
  · next hk => exact ((congrArg Prod.snd hk) ▸ hknown).trans (later_registerTagged handle _)

theorem later_perform (op : Operation) : Later r (op.perform r).2 := by
  cases op with
  | register handle kind => exact later_register handle kind
  | registerOptional handle kind => exact later_registerOptional handle kind
  | registerType handle facts => exact later_registerType handle facts
  | registerTagged handle tag => exact later_registerTagged handle tag
  | toWire value =>
    cases value with
    | primitive p => exact .refl r
    | reference kind handle =>
      change Later r (r.toWire (.reference kind handle)).2
      rw [toWire_reference]
      exact later_registerOptional handle kind
  | dispose id => exact later_dispose id
  | disposeObjects id count => exact later_disposeObjects id count
  | entityFreed handle => exact later_entityFreed handle
  | sweep => exact later_releaseAll _ r
  | disableCollection id => exact later_settle fun _ => later_of_disableCollection
  | enableCollection id => exact later_settle fun _ => later_of_enableCollection
  | invalidateFrames => exact later_releaseAll _ r
  | disposeAll => exact later_releaseAll _ r
  | _ => exact .refl r

/-- With or without room, a registration counts what comes in. -/
theorem WellFormed.issued_register (h : r.WellFormed) (handle : Handle) (kind : EntityKind) :
    (r.register handle kind).2.issued =
      r.issued + (r.newcomer? handle kind none).toList.length := by
  unfold register newcomer? holder?
  cases r.named? ⟨IdSpace.of kind, handle⟩ with
  | none => exact (issued_issue _ _ _ _).2.trans (congrArg (· + 1) h.evolves_sweepIfDue.issued)
  | some found => rfl

theorem WellFormed.issued_registerTagged (h : r.WellFormed) (handle : Handle) (tag : TypeTag) :
    (r.registerTagged handle tag).2.issued =
      r.issued + (r.newcomer? handle .referenceType (some tag)).toList.length := by
  unfold registerTagged newcomer? holder?
  cases hn : r.named? ⟨.referenceTypes, handle⟩ with
  | none =>
    rw [IdSpace.of, hn]
    exact (issued_issue _ _ _ _).2.trans (congrArg (· + 1) h.evolves_sweepIfDue.issued)
  | some found =>
    rw [IdSpace.of, hn]
    rfl

theorem WellFormed.issued_registerType (h : r.WellFormed) (handle : Handle)
    (facts : Except TargetError TypeTag) :
    (r.registerType handle facts).2.issued =
      r.issued + ((Operation.registerType handle facts).newcomer? r).toList.length := by
  obtain ⟨hknown, hanswer⟩ := h.evolves_knownType handle
  unfold registerType
  rcases hk : r.knownType handle with ⟨known, s⟩
  rw [hk] at hknown hanswer
  cases known with
  | some t =>
    obtain ⟨e, hholder, -⟩ := Option.bind_eq_some_iff.mp hanswer.symm
    have hnone : (Operation.registerType handle facts).newcomer? r = none :=
      newcomer?_eq_none (k := .referenceType) rfl (by simp [IdSpace.of, hholder])
    rw [hnone]
    exact hknown.issued
  | none =>
    cases facts with
    | error refusal => exact hknown.issued
    | ok tag =>
      change (s.registerTagged handle tag).2.issued =
        r.issued + (r.newcomer? handle .referenceType (some tag)).toList.length
      rw [hknown.wellFormed.issued_registerTagged, hknown.issued, newcomer?, newcomer?, IdSpace.of]
      cases hholder : r.holder? ⟨.referenceTypes, handle⟩ with
      | none =>
        rw [holder?, Option.map_eq_none_iff] at hholder
        obtain rfl : r = s := by simpa [knownType, hholder] using hk
        rw [holder?, hholder]
        rfl
      | some e =>
        have hstill := h.holder?_knownType hholder
        rw [hk] at hstill
        rw [hstill]
        rfl

theorem WellFormed.issued_perform (h : r.WellFormed) (op : Operation) :
    (op.perform r).2.issued = r.issued + (op.newcomer? r).toList.length := by
  cases op with
  | register handle kind => exact h.issued_register handle kind
  | registerOptional handle kind =>
    cases handle with
    | none => rfl
    | some handle => exact h.issued_register handle kind
  | registerType handle facts => exact h.issued_registerType handle facts
  | registerTagged handle tag => exact h.issued_registerTagged handle tag
  | toWire value =>
    cases value with
    | primitive p => rfl
    | reference kind handle =>
      change (r.toWire (.reference kind handle)).2.issued = _
      rw [toWire_reference]
      cases handle with
      | none => rfl
      | some handle => exact h.issued_register handle kind
  | dispose id => exact (h.evolves_dispose id).issued
  | disposeObjects id count => exact (h.evolves_disposeObjects id count).issued
  | entityFreed handle => exact (h.evolves_entityFreed handle).issued
  | sweep => exact h.evolves_sweep.issued
  | disableCollection id => exact (h.evolves_disableCollection id).1.issued
  | enableCollection id => exact (h.evolves_enableCollection id).1.issued
  | invalidateFrames => exact h.evolves_invalidateFrames.issued
  | disposeAll => exact h.evolves_disposeAll.issued
  | _ => rfl

/-! ## The ids that are handed out -/

theorem id?_toWire_reference (kind : EntityKind) (handle : Option Handle) :
    ((Operation.toWire (.reference kind handle)).perform r).1.id? =
      some (r.registerOptional handle kind).1 := by
  exact congrArg (fun w => (Outcome.wire w.1).id?) (toWire_reference (r := r) kind handle)

/-- A type is refused only if the target tells no tag. -/
theorem typeAnswer_cases (r : Registry) (handle : Handle) (facts : Except TargetError TypeTag) :
    (∃ tag, r.typeAnswer handle facts = .ok ⟨tag, r.idFor ⟨.referenceTypes, handle⟩⟩ ∧
      ((Operation.registerType handle facts).refused = true →
        r.holder? ⟨.referenceTypes, handle⟩ ≠ none)) ∨
    ∃ refusal, facts = .error refusal ∧ r.typeAnswer handle facts = .error refusal := by
  unfold typeAnswer
  cases htag : (r.holder? ⟨.referenceTypes, handle⟩).bind (·.typeTag) with
  | some tag =>
    obtain ⟨e, hholder, -⟩ := Option.bind_eq_some_iff.mp htag
    exact Or.inl ⟨tag, rfl, fun _ => by simp [hholder]⟩
  | none =>
    cases facts with
    | ok tag => exact Or.inl ⟨tag, rfl, fun hrefused => absurd hrefused Bool.false_ne_true⟩
    | error refusal => exact Or.inr ⟨refusal, rfl, rfl⟩

/-- A registration answers with the id of its entity, unless the target refuses to tell a tag. -/
theorem WellFormed.id?_of_subject (h : r.WellFormed) {op : Operation} {handle : Handle}
    {kind : EntityKind} (hsubject : op.subject? = some (handle, kind))
    (hroom : (op.perform r).2.HasRoom) :
    (op.perform r).1.id? = some (r.idFor ⟨IdSpace.of kind, handle⟩) ∧
        (op.refused = true → r.holder? ⟨IdSpace.of kind, handle⟩ ≠ none) ∨
      op.refused = true ∧ (op.perform r).1.id? = none := by
  cases op with
  | register handle' kind' =>
    obtain ⟨rfl, rfl⟩ := Prod.mk.inj (Option.some.inj hsubject)
    exact Or.inl ⟨congrArg some (h.evolves_register handle' kind' hroom).2, nofun⟩
  | registerOptional handle' kind' =>
    cases handle' with
    | none => exact absurd hsubject nofun
    | some handle' =>
      obtain ⟨rfl, rfl⟩ := Prod.mk.inj (Option.some.inj hsubject)
      exact Or.inl ⟨congrArg some (h.evolves_register handle' kind' hroom).2, nofun⟩
  | registerType handle' facts =>
    obtain ⟨rfl, rfl⟩ := Prod.mk.inj (Option.some.inj hsubject)
    have hanswer : ((Operation.registerType handle' facts).perform r).1.id? =
        (Outcome.typeRef (r.typeAnswer handle' facts)).id? :=
      congrArg (fun t => (Outcome.typeRef t).id?) (h.evolves_registerType handle' facts hroom).2
    rw [hanswer]
    obtain ⟨tag, hok, hheld⟩ | ⟨refusal, rfl, herror⟩ := r.typeAnswer_cases handle' facts
    · rw [hok]
      exact Or.inl ⟨rfl, hheld⟩
    · rw [herror]
      exact Or.inr ⟨rfl, rfl⟩
  | registerTagged handle' tag =>
    obtain ⟨rfl, rfl⟩ := Prod.mk.inj (Option.some.inj hsubject)
    have hanswer := (h.evolves_registerTagged handle' tag hroom).2
    exact Or.inl ⟨congrArg (fun t : TypeRef => some t.id) hanswer, nofun⟩
  | toWire value =>
    cases value with
    | primitive p => exact absurd hsubject nofun
    | reference kind' handle' =>
      cases handle' with
      | none => exact absurd hsubject nofun
      | some handle' =>
        obtain ⟨rfl, rfl⟩ := Prod.mk.inj (Option.some.inj hsubject)
        change (r.toWire (.reference kind' (some handle'))).2.HasRoom at hroom
        rw [toWire_reference] at hroom
        rw [id?_toWire_reference]
        exact Or.inl ⟨congrArg some (h.evolves_register handle' kind' hroom).2, nofun⟩
  | _ => exact absurd hsubject nofun

/-- **A call that issues an id** brings in the entry of that id. -/
theorem WellFormed.newcomer?_of_issued (h : r.WellFormed) {op : Operation} {handle : Handle}
    {kind : EntityKind} {id : WireId} (hsubject : op.subject? = some (handle, kind))
    (hid : (op.perform r).1.id? = some id) (hissued : (op.perform r).2.issued = r.issued + 1)
    (hroom : (op.perform r).2.HasRoom) :
    op.newcomer? r = some (.fresh id handle kind op.tag?) := by
  have hcount := h.issued_perform op
  rw [hissued] at hcount
  cases hnew : op.newcomer? r with
  | none =>
    rw [hnew] at hcount
    exact absurd hcount (Nat.succ_ne_self r.issued)
  | some e =>
    obtain ⟨hholder, rfl⟩ := fresh_of_newcomer? hsubject hnew
    obtain ⟨hanswer, -⟩ | ⟨-, hnone⟩ := h.id?_of_subject hsubject hroom
    · rw [hid, idFor, hholder] at hanswer
      rw [Option.some.inj hanswer]
      rfl
    · rw [hid] at hnone
      cases hnone

/-- Whatever registers nothing hands out no id but null. -/
theorem id?_of_no_subject {op : Operation} (hsubject : op.subject? = none) :
    (op.perform r).1.id? = none ∨ (op.perform r).1.id? = some .null := by
  cases op with
  | registerOptional handle kind =>
    cases handle with
    | none => exact Or.inr rfl
    | some handle => exact absurd hsubject nofun
  | toWire value =>
    cases value with
    | primitive p => exact Or.inl rfl
    | reference kind handle =>
      cases handle with
      | none =>
        rw [id?_toWire_reference]
        exact Or.inr rfl
      | some handle => exact absurd hsubject nofun
  | register | registerType | registerTagged => exact absurd hsubject nofun
  | _ => exact Or.inl rfl

end Registry
end DebugWire

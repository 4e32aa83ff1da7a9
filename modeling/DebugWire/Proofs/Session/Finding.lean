import DebugWire.Proofs.Target.Supertypes
import DebugWire.Session.Report

/-!
# Proofs/Session/Finding — what is found out about an occurrence

A report gathers what it needs before it does anything else.  `Finding.Of` says what is gathered for
an occurrence: its place and its particulars as it has them, with the types and tags that the target
tells when it is asked (`Told`), and all that a filter may look at (`Sighting.Of`,
`Sighting.Typed`).  The types are a type and all above it, as the target tells step by step what
lies above what (`Lineage`).  Whatever is found is so (`Finding.of_found`).
-/

namespace DebugWire

variable {α β ε σ : Type}

/-! ## What an attempt answers -/

/-- Begun where `I` holds, the attempt ends where `I` holds, and its answer has a property. -/
def Attempt.Gives (I : σ → Prop) (Q : α → Prop) (x : Attempt ε σ α) : Prop :=
  ∀ s, I s → I (run x s).2 ∧ ∀ a, (run x s).1 = .ok a → Q a

namespace Attempt.Gives

variable {I : σ → Prop} {P : α → Prop} {Q : β → Prop}

theorem pure {a : α} (h : P a) : Gives I P (Pure.pure a : Attempt ε σ α) :=
  fun _ hs => ⟨hs, fun _ ha => Except.ok.inj ha ▸ h⟩

/-- The second of two attempts may use what is known of the answer of the first. -/
theorem bind {x : Attempt ε σ α} {f : α → Attempt ε σ β} (hx : Gives I P x)
    (hf : ∀ a, P a → Gives I Q (f a)) : Gives I Q (x >>= f) := by
  intro s hs
  rw [run_bind]
  obtain ⟨hkept, hanswer⟩ := hx s hs
  split
  · next a t hrun =>
    rw [hrun] at hkept hanswer
    exact hf a (hanswer a rfl) t hkept
  · next e t hrun =>
    rw [hrun] at hkept
    exact ⟨hkept, nofun⟩

end Attempt.Gives

/-! ## What the target tells -/

variable [Target σ]

/-- What a report asks the target. -/
inductive Target.Informs : {α : Type} → TargetCall σ α → Prop where
  | typeFacts (type : Handle) : Informs (Target.typeFacts type)
  | methodFacts (method : Handle) : Informs (Target.methodFacts method)
  | fieldFacts (field : Handle) : Informs (Target.fieldFacts field)
  | objectType (object : Handle) : Informs (Target.objectType object)

/-- The states that a target comes to while it is asked. -/
inductive Asked (t : σ) : σ → Prop where
  | unasked : Asked t t
  | next {α : Type} {x : TargetCall σ α} (hx : Target.Informs x) {t' : σ} (h : Asked t t') :
      Asked t (x.run t').2

/-- The target answers so, then or after it was asked other things. -/
def Told (t : σ) (x : TargetCall σ α) (a : α) : Prop := ∃ t', Asked t t' ∧ (x.run t').1 = .ok a

variable {t : σ}

theorem gives_told {x : TargetCall σ α} (hx : Target.Informs x) :
    Attempt.Gives (Asked t) (Told t x) x :=
  fun t' h => ⟨h.next hx, fun _ ha => ⟨t', h, ha⟩⟩

/-! ### Supertypes -/

/-- The target tells, step by step, that a type lies above another. -/
inductive LiesAbove (t : σ) (type : Handle) : Handle → Prop where
  | self : LiesAbove t type type
  | step {a b : Handle} {facts : TypeFacts} (h : LiesAbove t type a)
      (htold : Told t (Target.typeFacts a) facts) (hb : b ∈ facts.supertypes) :
      LiesAbove t type b

/-- A type and all that lie above it, breadth first: each of them in turn brings its supertypes, but
for those that are there already. -/
structure Lineage (t : σ) (type : Handle) (types : List Handle) : Prop where
  above : ∀ a ∈ types, LiesAbove t type a
  order : ∃ facts, List.Forall₂ (fun a f => Told t (Target.typeFacts a) f) types facts ∧
    types = (type :: facts.flatMap TypeFacts.supertypes).eraseDups

/-- What a walk has listed when it asked for the supertypes of `done` types. -/
structure Lineage.Until (t : σ) (type : Handle) (f : Found) (done : Nat) : Prop where
  above : ∀ a ∈ f.types, LiesAbove t type a
  order : ∃ facts,
    List.Forall₂ (fun a f => Told t (Target.typeFacts a) f) (f.types.take done) facts ∧
      f.types = (type :: facts.flatMap TypeFacts.supertypes).eraseDups

theorem Lineage.until_start (t : σ) (type : Handle) : Until t type (.start type) 0 where
  above a ha := by
    obtain rfl := List.mem_singleton.mp ha
    exact .self
  order := ⟨[], .nil, (eraseDups_of_nodup (Found.start type).nodup).symm⟩

/-- **One round:** the next type brings its supertypes. -/
theorem Lineage.Until.next {type a : Handle} {f : Found} {done : Nat} {facts : TypeFacts}
    (h : Until t type f done) (ha : f.types[done]? = some a)
    (htold : Told t (Target.typeFacts a) facts) :
    Until t type (f.addAll facts.supertypes) (done + 1) where
  above b hb := by
    rw [Found.types_addAll, List.mem_eraseDups, List.mem_append] at hb
    obtain hb | hb := hb
    · exact h.above b hb
    · exact (h.above a (List.mem_of_getElem? ha)).step htold hb
  order := by
    obtain ⟨told, htolds, horder⟩ := h.order
    obtain ⟨hlt, hget⟩ := List.getElem?_eq_some_iff.mp ha
    refine ⟨told ++ [facts], ?_, ?_⟩
    · rw [Found.take_addAll hlt, List.take_succ_eq_append_getElem hlt, hget]
      exact List.rel_append htolds (.cons htold .nil)
    · rw [List.flatMap_append, List.flatMap_singleton, ← List.cons_append,
        ← eraseDups_eraseDups_append, ← horder, Found.types_addAll]

/-- A walk that asked for all that it listed listed everything. -/
theorem Lineage.Until.lineage {type : Handle} {f : Found} {done : Nat} (h : Until t type f done)
    (hall : f.types[done]? = none) : Lineage t type f.types where
  above := h.above
  order := by
    have horder := h.order
    rwa [List.take_of_length_le (List.getElem?_eq_none_iff.mp hall)] at horder

/-- **A walk lists a type and all above it.** -/
theorem gives_supertypesFrom {type : Handle} {f : Found} {done : Nat}
    (h : Lineage.Until t type f done) :
    Attempt.Gives (Asked t) (Lineage t type)
      (supertypesFrom f done : TargetCall σ (List Handle)) := by
  fun_induction supertypesFrom (σ := σ) f done with
  | case1 f done hall => exact .pure (h.lineage hall)
  | case2 f done a ha ih =>
    exact (gives_told (.typeFacts a)).bind fun facts hfacts => ih facts (h.next ha hfacts)

theorem gives_supertypes (type : Handle) :
    Attempt.Gives (Asked t) (Lineage t type) (supertypes type : TargetCall σ (List Handle)) :=
  gives_supertypesFrom (Lineage.until_start t type)

/-! ## What an occurrence is -/

namespace Occurrence

/-- The object that the code runs on, or whose field is concerned. -/
def receiver? : Occurrence → Option Handle
  | .code _ (.fieldAccess _ object) | .code _ (.fieldModification _ object _) => object
  | o => o.spot?.bind (·.receiver)

def field? : Occurrence → Option Handle
  | .code _ (.fieldAccess field _) | .code _ (.fieldModification field _ _) => some field
  | _ => none

def step? : Occurrence → Option (Int32 × Int32)
  | .code _ (.singleStep size depth) => some (size, depth)
  | _ => none

def thrown? : Occurrence → Option Handle
  | .code _ (.exception exception _) => some exception
  | _ => none

/-- Whether what is thrown will be caught. -/
def caught? : Occurrence → Option Bool
  | .code _ (.exception _ handler) => some handler.isSome
  | _ => none

/-- The signature of a class that is gone. -/
def unloaded? : Occurrence → Option String
  | .classUnload signature => some signature
  | _ => none

/-- The type that is prepared, or that declares the code at a site. -/
def type? (site : Option Site) : Occurrence → Option Handle
  | .classPrepare _ type => some type
  | _ => site.map (·.declaringType)

end Occurrence

/-! ## What is found -/

/-- The target tells that the method is declared by the type, and what sort of type that is. -/
def DeclaresMethod (t : σ) (method type : Handle) (tag : TypeTag) : Prop :=
  (∃ facts, Told t (Target.methodFacts method) facts ∧ facts.declaringType = type) ∧
    ∃ facts, Told t (Target.typeFacts type) facts ∧ facts.typeTag = tag

/-- The same, of a field. -/
def DeclaresField (t : σ) (field type : Handle) (tag : TypeTag) : Prop :=
  (∃ facts, Told t (Target.fieldFacts field) facts ∧ facts.declaringType = type) ∧
    ∃ facts, Told t (Target.typeFacts type) facts ∧ facts.typeTag = tag

/-- The placement is at a code index of a method. -/
structure Placement.At (t : σ) (p : Placement) (method : Handle) (index : UInt64) : Prop where
  method : p.method = method
  index : p.index = index
  declared : DeclaresMethod t p.method p.declaringType p.tag

/-- What is particular to a code event. -/
inductive Detail.OfCode (t : σ) : CodeEvent → Detail → Prop where
  | breakpoint : OfCode t .breakpoint .nothing
  | singleStep (size depth : Int32) : OfCode t (.singleStep size depth) .nothing
  | methodEntry : OfCode t .methodEntry .nothing
  | methodExit (value : TargetValue) : OfCode t (.methodExit value) (.returned value)
  | uncaught (exception : Handle) : OfCode t (.exception exception none) (.thrown exception none)
  | caught (exception : Handle) {method : Handle} {index : UInt64} {place : Placement}
      (hplace : place.At t method index) :
      OfCode t (.exception exception (some (method, index))) (.thrown exception (some place))
  | fieldAccess {field type : Handle} {tag : TypeTag} (htype : DeclaresField t field type tag)
      (object : Option Handle) :
      OfCode t (.fieldAccess field object) (.touched type tag field object none)
  | fieldModification {field type : Handle} {tag : TypeTag}
      (htype : DeclaresField t field type tag) (object : Option Handle) (value : TargetValue) :
      OfCode t (.fieldModification field object value) (.touched type tag field object (some value))

/-- What is particular to an occurrence, and where it happened. -/
inductive Detail.Of (t : σ) : Occurrence → Option Placement → Detail → Prop where
  | vmStart (thread : Handle) : Of t (.vmStart thread) none .nothing
  | vmDeath : Of t .vmDeath none .nothing
  | threadStart (thread : Handle) : Of t (.threadStart thread) none .nothing
  | threadDeath (thread : Handle) : Of t (.threadDeath thread) none .nothing
  | classPrepare (thread : Handle) {type : Handle} {facts : TypeFacts}
      (htold : Told t (Target.typeFacts type) facts) :
      Of t (.classPrepare thread type) none
        (.preparedType type facts.typeTag facts.signature facts.status)
  | classUnload (signature : String) : Of t (.classUnload signature) none (.unloadedType signature)
  | code {spot : Spot} {event : CodeEvent} {place : Placement} {detail : Detail}
      (hplace : place.At t spot.method spot.index) (hdetail : OfCode t event detail) :
      Of t (.code spot event) (some place) detail

/-- What filters are shown of an occurrence at a site, whatever types it concerns. -/
structure Sighting.Of (t : σ) (serial : UInt64) (o : Occurrence) (site : Option Site)
    (s : Sighting) : Prop where
  serial : s.serial = serial
  thread : s.thread = o.thread?
  site : s.site = site
  receiver : s.receiver = o.receiver?
  field : s.field = o.field?
  step : s.step = o.step?
  caught : s.caught = o.caught?
  /-- The type of what is thrown, and all above it. -/
  thrown : ∀ exception, o.thrown? = some exception →
    ∃ type, Told t (Target.objectType exception) type ∧ Lineage t type s.thrown
  notThrown : o.thrown? = none → s.thrown = []

/-- What filters are shown of the type that an occurrence concerns. -/
structure Sighting.Typed (t : σ) (o : Occurrence) (site : Option Site) (s : Sighting) : Prop where
  /-- The type and all above it, its name, and the file that it comes from. -/
  typed : ∀ type, o.type? site = some type → Lineage t type s.types ∧
    ∃ facts, Told t (Target.typeFacts type) facts ∧
      s.className = some facts.className ∧ s.sourceName = facts.sourceFile
  /-- Without a type, there is the name of a class that is gone at most. -/
  untyped : o.type? site = none → s.types = [] ∧ s.sourceName = none ∧
    s.className = o.unloaded?.map Signature.className

/-- The site of a placement. -/
def Placement.site (p : Placement) : Site := ⟨p.declaringType, p.method, p.index⟩

/-- What is gathered for an occurrence. -/
structure Finding.Of (t : σ) (serial : UInt64) (o : Occurrence) (f : Finding) : Prop where
  detail : Detail.Of t o f.place f.detail
  sighting : f.sighting.Of t serial o (f.place.map Placement.site)
  typed : f.sighting.Typed t o (f.place.map Placement.site)

/-- Where nothing is thrown, the occurrence itself is shown. -/
theorem Sighting.of_calm (serial : UInt64) (kind : EventKind) {o : Occurrence}
    (site : Option Site) (h : o.thrown? = none) (className : Option String) :
    Sighting.Of t serial o site
      { serial := serial
        kind := kind
        thread := o.thread?
        site := site
        className := className
        caught := o.caught?
        field := o.field?
        receiver := o.receiver?
        step := o.step? } where
  serial := rfl
  thread := rfl
  site := rfl
  receiver := rfl
  field := rfl
  step := rfl
  caught := rfl
  thrown _ hthrown := absurd (h.symm.trans hthrown) nofun
  notThrown _ := rfl

namespace Finding

/-- A position in a method is looked up in the target. -/
theorem gives_locate (method : Handle) (index : UInt64) :
    Attempt.Gives (Asked t) (fun p => p.At t method index)
      (locate method index : TargetCall σ Placement) := by
  refine (gives_told (.methodFacts method)).bind fun method' hmethod => ?_
  refine (gives_told (.typeFacts _)).bind fun facts hfacts => .pure ⟨rfl, rfl, ?_⟩
  exact ⟨⟨method', hmethod, rfl⟩, facts, hfacts, rfl⟩

theorem gives_fieldOwner (field : Handle) :
    Attempt.Gives (Asked t) (fun owner => DeclaresField t field owner.1 owner.2)
      (fieldOwner field : TargetCall σ (Handle × TypeTag)) := by
  refine (gives_told (.fieldFacts field)).bind fun field' hfield => ?_
  exact (gives_told (.typeFacts _)).bind fun facts hfacts =>
    .pure ⟨⟨field', hfield, rfl⟩, facts, hfacts, rfl⟩

/-- The place where an exception will be caught, if it will be. -/
theorem gives_handler (exception : Handle) (handler : Option (Handle × UInt64)) :
    Attempt.Gives (Asked t)
      (fun place => Detail.OfCode t (.exception exception handler) (.thrown exception place))
      (handler.mapM fun (method, index) => (locate method index : TargetCall σ Placement)) := by
  cases handler with
  | none => exact .pure (.uncaught exception)
  | some handler =>
    exact (gives_locate handler.1 handler.2).bind fun place hplace =>
      .pure (.caught exception hplace)

/-- What is noted of a code event before its type is looked at. -/
theorem gives_ofCode (serial : UInt64) (kind : EventKind) (spot : Spot) (site : Option Site)
    (event : CodeEvent) :
    Attempt.Gives (Asked t)
      (fun found => found.1.Of t serial (.code spot event) site ∧ Detail.OfCode t event found.2)
      (ofCode
        { serial := serial
          kind := kind
          thread := some spot.thread
          site := site
          receiver := spot.receiver } event : TargetCall σ (Sighting × Detail)) := by
  have hcalm (hevent : (Occurrence.code spot event).thrown? = none) :=
    Sighting.of_calm (t := t) serial kind site hevent none
  cases event with
  | breakpoint => exact .pure ⟨hcalm rfl, .breakpoint⟩
  | singleStep size depth => exact .pure ⟨hcalm rfl, .singleStep size depth⟩
  | methodEntry => exact .pure ⟨hcalm rfl, .methodEntry⟩
  | methodExit value => exact .pure ⟨hcalm rfl, .methodExit value⟩
  | exception exception handler =>
    refine (gives_told (.objectType exception)).bind fun type htype => ?_
    refine (gives_supertypes type).bind fun thrown hthrown => ?_
    refine (gives_handler exception handler).bind fun place hplace => .pure ⟨?_, hplace⟩
    refine ⟨rfl, rfl, rfl, rfl, rfl, rfl, rfl, ?_, nofun⟩
    rintro _ ⟨⟩
    exact ⟨type, htype, hthrown⟩
  | fieldAccess field object =>
    exact (gives_fieldOwner field).bind fun owner howner =>
      .pure ⟨hcalm rfl, .fieldAccess howner object⟩
  | fieldModification field object value =>
    exact (gives_fieldOwner field).bind fun owner howner =>
      .pure ⟨hcalm rfl, .fieldModification howner object value⟩

/-- The type that an event concerns is noted besides what was noted before. -/
theorem gives_withType {serial : UInt64} {o : Occurrence} {site : Option Site} {s : Sighting}
    (h : s.Of t serial o site) {type : Handle} (htype : o.type? site = some type) :
    Attempt.Gives (Asked t)
      (fun found => found.1.Of t serial o site ∧ found.1.Typed t o site ∧
        Told t (Target.typeFacts type) found.2)
      (withType s type : TargetCall σ (Sighting × TypeFacts)) := by
  refine (gives_told (.typeFacts type)).bind fun facts hfacts => ?_
  refine (gives_supertypes type).bind fun types htypes => .pure ⟨?_, ⟨?_, ?_⟩, hfacts⟩
  · exact ⟨h.serial, h.thread, h.site, h.receiver, h.field, h.step, h.caught, h.thrown,
      h.notThrown⟩
  · intro type' htype'
    obtain rfl := Option.some.inj (htype'.symm.trans htype)
    exact ⟨htypes, facts, hfacts, rfl, rfl⟩
  · exact fun hnone => absurd (htype.symm.trans hnone) nofun

/-- **What is found is of the occurrence.** -/
theorem gives_of (serial : UInt64) (o : Occurrence) :
    Attempt.Gives (Asked t) (Finding.Of t serial o) (find serial o : TargetCall σ Finding) := by
  have hcalm (kind : EventKind) (ho : o.thrown? = none) :=
    Sighting.of_calm (t := t) serial kind none ho
  cases o with
  | vmStart thread =>
    exact .pure ⟨.vmStart thread, hcalm _ rfl _, nofun, fun _ => ⟨rfl, rfl, rfl⟩⟩
  | vmDeath => exact .pure ⟨.vmDeath, hcalm _ rfl _, nofun, fun _ => ⟨rfl, rfl, rfl⟩⟩
  | threadStart thread =>
    exact .pure ⟨.threadStart thread, hcalm _ rfl _, nofun, fun _ => ⟨rfl, rfl, rfl⟩⟩
  | threadDeath thread =>
    exact .pure ⟨.threadDeath thread, hcalm _ rfl _, nofun, fun _ => ⟨rfl, rfl, rfl⟩⟩
  | classUnload signature =>
    exact .pure ⟨.classUnload signature, hcalm _ rfl _, nofun, fun _ => ⟨rfl, rfl, rfl⟩⟩
  | classPrepare thread type =>
    refine (gives_withType (hcalm _ rfl _) rfl).bind fun found hfound => .pure ?_
    exact ⟨.classPrepare thread hfound.2.2, hfound.1, hfound.2.1⟩
  | code spot event =>
    refine (gives_told (.methodFacts spot.method)).bind fun method hmethod => ?_
    refine (gives_ofCode serial _ spot _ event).bind fun found hfound => ?_
    refine (gives_withType hfound.1 rfl).bind fun found' hfound' => .pure ?_
    refine ⟨.code ⟨rfl, rfl, ?_⟩ hfound.2, hfound'.1, hfound'.2.1⟩
    exact ⟨⟨method, hmethod, rfl⟩, found'.2, hfound'.2.2, rfl⟩

theorem of_found {serial : UInt64} {o : Occurrence} {f : Finding} {target' : σ}
    (h : (find serial o).run t = (.ok f, target')) : Finding.Of t serial o f :=
  (gives_of serial o t .unasked).2 f (congrArg Prod.fst h)

end Finding
end DebugWire

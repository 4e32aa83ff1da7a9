import DebugWire.Proofs.Bytes.Reading
import DebugWire.Proofs.Registry.Kinds
import DebugWire.Session.Report
import Mathlib.Data.List.Forall2

/-!
# Proofs/Session/Notice — what a debugger reads of an event

A debugger reads an event packet with the readers of plain parts alone.  The kind of an event tells
which parts follow (`Read.notice`), and everything but ids is there as it was found; an id has to be
looked up.  `Finding.Says` compares what is read with what was found, by the look-ups of a table: an
id that is not null must give the entity back.  What is said stays so while the table only learns
(`Finding.Says.mono`).
-/

namespace DebugWire

/-! ## What is read -/

/-- What an event tells beyond its thread and its place. -/
inductive Particulars where
  | nothing
  | preparedType (type : TypeRef) (signature : String) (status : Int32)
  | unloadedType (signature : String)
  | returned (value : WireValue)
  | thrown (exception : WireValue) (handler : Option Position)
  | touched (type : TypeRef) (field : WireId) (object : WireValue) (value : Option WireValue)
deriving DecidableEq, Repr

/-- What one request is told. -/
structure Notice where
  kind : EventKind
  request : Int32
  thread : Option WireId
  place : Option Position
  particulars : Particulars
deriving DecidableEq, Repr

namespace EventKind

/-- Events of this kind tell their thread. -/
def tellsThread : EventKind → Bool
  | .classUnload | .vmDeath => false
  | _ => true

/-- Events of this kind tell their place. -/
def tellsPlace : EventKind → Bool
  | .singleStep | .breakpoint | .exception | .fieldAccess | .fieldModification | .methodEntry
  | .methodExit | .methodExitWithReturnValue => true
  | _ => false

end EventKind

namespace Read

variable {α : Type}

def eventKind : Read EventKind := do
  let raw ← uint8
  match EventKind.ofNumber? raw with
  | some kind => return kind
  | none => throw (.unknownEventKind raw)

def suspendPolicy : Read SuspendPolicy := do
  let raw ← uint8
  Attempt.ofExcept (SuspendPolicy.ofNumber raw)

def typeRef : Read TypeRef := do
  let tag ← typeTag
  let id ← wireId
  return ⟨tag, id⟩

/-- A position, or what stands in place of one. -/
def positionOrNone : Read (Option Position) := do
  let c ← get
  if c.rest.take 25 = Bytes.noPosition then
    let _ ← bytes 25
    return none
  else some <$> position

/-- A part that is there or not. -/
def part (there : Bool) (x : Read α) : Read (Option α) :=
  if there then some <$> x else return none

/-- The same, so many times. -/
def times (x : Read α) : Nat → Read (List α)
  | 0 => return []
  | n + 1 => do
      let a ← x
      let as ← times x n
      return a :: as

/-- What a field event tells, with the new value if there is one. -/
def touched (changed : Bool) : Read Particulars := do
  let type ← typeRef
  let field ← wireId
  let object ← value
  let set ← part changed value
  return .touched type field object set

/-- What follows the thread and the place.  Of some kinds, no event is ever reported. -/
def particulars : EventKind → Read Particulars
  | .singleStep | .breakpoint | .threadStart | .threadDeath | .methodEntry | .methodExit | .vmStart
  | .vmDeath => return .nothing
  | .classPrepare => do
      let type ← typeRef
      let signature ← string
      let status ← int32
      return .preparedType type signature status
  | .classUnload => .unloadedType <$> string
  | .methodExitWithReturnValue => .returned <$> value
  | .exception => do
      let exception ← value
      let handler ← positionOrNone
      return .thrown exception handler
  | .fieldAccess => touched false
  | .fieldModification => touched true
  | kind => throw (.unknownEventKind kind.number)

/-- What one request is told. -/
def notice : Read Notice := do
  let kind ← eventKind
  let request ← int32
  let thread ← part kind.tellsThread wireId
  let place ← part kind.tellsPlace position
  let particulars ← particulars kind
  return ⟨kind, request, thread, place, particulars⟩

/-- An event packet: the policy that is in force, and what each request is told. -/
def composite : Read (SuspendPolicy × List Notice) := do
  let policy ← suspendPolicy
  let n ← count
  let notices ← times notice n
  return (policy, notices)

/-! ### What was written is read back -/

theorem reads_eventKind (kind : EventKind) : Reads eventKind (Bytes.ofUInt8 kind.number) kind :=
  (reads_uint8 kind.number).last (by rw [EventKind.ofNumber?_number])

theorem reads_suspendPolicy (policy : SuspendPolicy) :
    Reads suspendPolicy (Bytes.ofUInt8 policy.number) policy :=
  (reads_uint8 policy.number).last (by rw [SuspendPolicy.ofNumber_number]; rfl)

theorem reads_typeRef (t : TypeRef) : Reads typeRef (Bytes.ofTypeRef t) t :=
  (reads_typeTag t.tag).bind ((reads_wireId t.id).last rfl)

/-- No position begins with the zeros that stand in place of one. -/
theorem take_ofPosition (p : Position) (rest : Bytes) :
    (Bytes.ofPosition p ++ rest).take 25 ≠ Bytes.noPosition := by
  intro htake
  have hfirst : p.typeTag.number = 0 := (List.cons.inj htake).1
  cases htag : p.typeTag <;> simp [htag, TypeTag.number] at hfirst

/-- A position begins with the number of a tag, which absence does not. -/
theorem reads_positionOrNone_some (p : Position) :
    Reads positionOrNone (Bytes.ofPosition p) (some p) := by
  intro q rest
  rw [positionOrNone, Attempt.run_bind, Attempt.run_get]
  simp only [if_neg (take_ofPosition p rest)]
  exact (reads_position p).map some q rest

/-- Absence is as long as a position, so it has to be looked for first. -/
theorem reads_positionOrNone_none : Reads positionOrNone Bytes.noPosition none := by
  intro q rest
  rw [positionOrNone, Attempt.run_bind, Attempt.run_get]
  have htake : (Bytes.noPosition ++ rest).take 25 = Bytes.noPosition := List.take_left' rfl
  simp only [if_pos htake]
  have hread : Reads (bytes 25) Bytes.noPosition Bytes.noPosition :=
    fun p rest => run_bytes_append Bytes.noPosition rest p
  rw [Attempt.run_bind_of_ok (hread q rest), Attempt.run_pure]

/-- Parts that were written one by one. -/
theorem reads_times {x : Read α} {parts : List Bytes} {as : List α}
    (h : List.Forall₂ (Reads x) parts as) : Reads (times x parts.length) parts.flatten as := by
  induction h with
  | nil => exact .pure []
  | cons hpart _ ih => exact hpart.bind (ih.last rfl)

end Read

/-! ## What it says -/

/-- The table gives the position back. -/
structure Placement.Says (r : Registry) (p : Placement) (w : Position) : Prop where
  type : r.resolveType w.declaringType = .ok (p.declaringType, w.typeTag)
  method : r.resolve w.method .method = .ok p.method
  index : w.index = p.index

/-- The table gives back what was found.  The tag of a type is the one that the table has. -/
inductive Detail.Says (r : Registry) (kind : EventKind) : Detail → Particulars → Prop where
  | nothing : Says r kind .nothing .nothing
  | preparedType {type : Handle} {t : TypeRef} (tag : TypeTag) (signature : String) (status : Int32)
      (htype : r.resolveType t.id = .ok (type, t.tag)) :
      Says r kind (.preparedType type tag signature status) (.preparedType t signature status)
  | unloadedType (signature : String) :
      Says r kind (.unloadedType signature) (.unloadedType signature)
  | returned {value : TargetValue} {w : WireValue} (hkind : kind = .methodExitWithReturnValue)
      (hvalue : r.fromWire w = .ok value) : Says r kind (.returned value) (.returned w)
  /-- Only who asks for the returned value gets it. -/
  | unasked (hkind : kind ≠ .methodExitWithReturnValue) (value : TargetValue) :
      Says r kind (.returned value) .nothing
  | thrown {exception : Handle} {handler : Option Placement} {w : WireValue}
      {place : Option Position}
      (hexception : r.fromWire w = .ok (.reference (.object .plain) (some exception)))
      (hhandler : Option.Rel (Placement.Says r) handler place) :
      Says r kind (.thrown exception handler) (.thrown w place)
  | touched {type field : Handle} {object : Option Handle} {value : Option TargetValue}
      {t : TypeRef} {id : WireId} {w : WireValue} {set : Option WireValue} (tag : TypeTag)
      (htype : r.resolveType t.id = .ok (type, t.tag)) (hfield : r.resolve id .field = .ok field)
      (hobject : r.fromWire w = .ok (.reference (.object .plain) object))
      (hvalue : Option.Rel (fun v w => r.fromWire w = .ok v) value set) :
      Says r kind (.touched type tag field object value) (.touched t id w set)

/-- One request is told what was found. -/
structure Finding.Says (f : Finding) (r : Registry) (hit : Hit) (n : Notice) : Prop where
  kind : n.kind = hit.kind
  request : n.request = hit.request
  thread : Option.Rel (fun thread id => r.resolve id (.object .thread) = .ok thread)
    f.sighting.thread n.thread
  place : Option.Rel (Placement.Says r) f.place n.place
  detail : f.detail.Says r hit.kind n.particulars

/-! ### It stays so -/

theorem rel_mono {α β : Type} {R S : α → β → Prop} (h : ∀ a b, R a b → S a b) {a : Option α}
    {b : Option β} (hrel : Option.Rel R a b) : Option.Rel S a b := by
  cases hrel with
  | some hab => exact .some (h _ _ hab)
  | none => exact .none

open Registry

variable {r s : Registry}

/-- A place keeps its two ids while the table only learns. -/
theorem Placement.Says.mono {p : Placement} {w : Position} (h : p.Says r w) (hs : Extends r s) :
    p.Says s w := ⟨hs.resolveType h.type, hs.resolve h.method, h.index⟩

/-- And so does whatever the kind of the event adds. -/
theorem Detail.Says.mono {kind : EventKind} {d : Detail} {p : Particulars} (h : d.Says r kind p)
    (hs : Extends r s) : d.Says s kind p := by
  cases h with
  | nothing => exact .nothing
  | preparedType tag signature status htype =>
    exact .preparedType tag signature status (hs.resolveType htype)
  | unloadedType signature => exact .unloadedType signature
  | returned hkind hvalue => exact .returned hkind (hs.fromWire hvalue)
  | unasked hkind value => exact .unasked hkind value
  | thrown hexception hhandler =>
    exact .thrown (hs.fromWire hexception) (rel_mono (fun _ _ h => h.mono hs) hhandler)
  | touched tag htype hfield hobject hvalue =>
    exact .touched tag (hs.resolveType htype) (hs.resolve hfield) (hs.fromWire hobject)
      (rel_mono (fun _ _ h => hs.fromWire h) hvalue)

/-- **What is said stays so** while the table only learns. -/
theorem Finding.Says.mono {f : Finding} {hit : Hit} {n : Notice} (h : f.Says r hit n)
    (hs : Extends r s) : f.Says s hit n where
  kind := h.kind
  request := h.request
  thread := rel_mono (fun _ _ h => hs.resolve h) h.thread
  place := rel_mono (fun _ _ h => h.mono hs) h.place
  detail := h.detail.mono hs

end DebugWire

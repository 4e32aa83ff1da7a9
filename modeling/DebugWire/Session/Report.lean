import DebugWire.Event.Occurrence
import DebugWire.Packet
import DebugWire.Session.Backend
import DebugWire.Session.Body
import DebugWire.Target.Supertypes

/-!
# Session/Report — from an occurrence to a packet

`Finding` is all that a report needs of the target.  It is gathered first (`find`), so that a target
that fails leaves every request, id and suspension as it was.  Then the requests are asked, the
packet is written, the strongest policy of the requests met is put into force, and the packet is
queued (`Backend.announce`).  `Backend.report` tells whether anyone was told.
-/

namespace DebugWire

/-! ## Gathering -/

/-- A code position with its declaring type. -/
structure Placement where
  declaringType : Handle
  tag : TypeTag
  method : Handle
  index : UInt64
deriving DecidableEq, Repr

/-- What a report says beyond the thread and the place. -/
inductive Detail where
  | nothing
  | preparedType (type : Handle) (tag : TypeTag) (signature : String) (status : Int32)
  | unloadedType (signature : String)
  | returned (value : TargetValue)
  | thrown (exception : Handle) (handler : Option Placement)
  /-- A field was looked at, or is about to get a value. -/
  | touched (declaringType : Handle) (tag : TypeTag) (field : Handle) (object : Option Handle)
      (value : Option TargetValue)
deriving DecidableEq, Repr

/-- All that a report needs of the target. -/
structure Finding where
  sighting : Sighting
  place : Option Placement
  detail : Detail
deriving DecidableEq, Repr

namespace Finding

variable {σ : Type} [Target σ]

/-- Find out where a method belongs. -/
def locate (method : Handle) (index : UInt64) : TargetCall σ Placement := do
  let declaringType := (← Target.methodFacts method).declaringType
  let facts ← Target.typeFacts declaringType
  return ⟨declaringType, facts.typeTag, method, index⟩

/-- What the target knows of a field: its declaring type, with its tag. -/
def fieldOwner (field : Handle) : TargetCall σ (Handle × TypeTag) := do
  let declaringType := (← Target.fieldFacts field).declaringType
  let facts ← Target.typeFacts declaringType
  return (declaringType, facts.typeTag)

/-- Find out what is particular to a code event, and note what filters may ask for. -/
def ofCode (s : Sighting) : CodeEvent → TargetCall σ (Sighting × Detail)
  | .breakpoint => return (s, .nothing)
  | .singleStep size depth => return ({ s with step := some (size, depth) }, .nothing)
  | .methodEntry => return (s, .nothing)
  | .methodExit value => return (s, .returned value)
  | .exception exception handler => do
      let thrown ← supertypes (← Target.objectType exception)
      let place ← handler.mapM fun (method, index) => locate method index
      return ({ s with thrown := thrown, caught := some handler.isSome }, .thrown exception place)
  | .fieldAccess field object => do
      let (type, tag) ← fieldOwner field
      return ({ s with field := some field, receiver := object },
        .touched type tag field object none)
  | .fieldModification field object value => do
      let (type, tag) ← fieldOwner field
      return ({ s with field := some field, receiver := object },
        .touched type tag field object (some value))

/-- Note the type that an event concerns. -/
def withType (s : Sighting) (type : Handle) : TargetCall σ (Sighting × TypeFacts) := do
  let facts ← Target.typeFacts type
  let types ← supertypes type
  return ({ s with
    className := some facts.className
    sourceName := facts.sourceFile
    types := types }, facts)

/-- Gather what a report of an occurrence needs. -/
def find (serial : UInt64) : Occurrence → TargetCall σ Finding
  | .vmStart thread =>
      return ⟨{ serial := serial, kind := .vmStart, thread := some thread }, none, .nothing⟩
  | .vmDeath => return ⟨{ serial := serial, kind := .vmDeath }, none, .nothing⟩
  | .threadStart thread =>
      return ⟨{ serial := serial, kind := .threadStart, thread := some thread }, none, .nothing⟩
  | .threadDeath thread =>
      return ⟨{ serial := serial, kind := .threadDeath, thread := some thread }, none, .nothing⟩
  | .classPrepare thread type => do
      let (s, facts) ←
        withType { serial := serial, kind := .classPrepare, thread := some thread } type
      return ⟨s, none, .preparedType type facts.typeTag facts.signature facts.status⟩
  | .classUnload signature =>
      return ⟨{ serial := serial, kind := .classUnload,
                className := some (Signature.className signature) }, none,
        .unloadedType signature⟩
  | .code spot event => do
      let type := (← Target.methodFacts spot.method).declaringType
      let s : Sighting :=
        { serial := serial
          kind := event.kinds.headD .breakpoint
          thread := some spot.thread
          site := some ⟨type, spot.method, spot.index⟩
          receiver := spot.receiver }
      let (s, detail) ← ofCode s event
      let (s, facts) ← withType s type
      return ⟨s, some ⟨type, facts.typeTag, spot.method, spot.index⟩, detail⟩

end Finding

/-! ## Writing -/

/-- A part that may be missing, with what stands in its place. -/
def writePart {α : Type} (part : Option α) (missing : Body) (write : α → StateM Registry Body) :
    StateM Registry Body :=
  match part with
  | some a => write a
  | none => return missing

/-- The wire form of a placement. -/
def Placement.write (p : Placement) : StateM Registry Body := do
  let t ← modifyGet (·.registerTagged p.declaringType p.tag)
  let method ← modifyGet (·.register p.method .method)
  return .ofPosition p.declaringType p.method ⟨t.tag, t.id, method, p.index⟩

/-- The tag and the wire form of a value. -/
def TargetValue.write (v : TargetValue) : StateM Registry Body :=
  Body.ofTagged v <$> modifyGet (·.toWire v)

/-- The wire form of a detail, as a request of some kind gets it.  Only a request that asks for the
returned value gets it. -/
def Detail.write (kind : EventKind) : Detail → StateM Registry Body
  | .nothing => return []
  | .preparedType type tag signature status => do
      let t ← modifyGet (·.registerTagged type tag)
      return .ofTypeRef type t ++ .plain (Bytes.ofString signature ++ Bytes.ofInt32 status)
  | .unloadedType signature => return .plain (Bytes.ofString signature)
  | .returned value => if kind = .methodExitWithReturnValue then value.write else return []
  | .thrown exception handler => do
      let object ← (TargetValue.reference (.object .plain) (some exception)).write
      let place ← writePart handler (.plain Bytes.noPosition) Placement.write
      return object ++ place
  | .touched type tag field object value => do
      let t ← modifyGet (·.registerTagged type tag)
      let id ← modifyGet (·.register field .field)
      let owner ← (TargetValue.reference (.object .plain) object).write
      let set ← writePart value [] TargetValue.write
      return .ofTypeRef type t ++ .ofEntity field id ++ owner ++ set

/-- What one request is told. -/
def Finding.write (f : Finding) (h : Hit) : StateM Registry Body := do
  let thread ← writePart f.sighting.thread [] fun thread =>
    Body.ofEntity thread <$> modifyGet (·.register thread (.object .thread))
  let place ← writePart f.place [] Placement.write
  let detail ← f.detail.write h.kind
  return .plain (Bytes.ofUInt8 h.kind.number ++ Bytes.ofInt32 h.request) ++ thread ++ place ++
    detail

/-- What all requests that were met are told. -/
def Finding.composite (f : Finding) (policy : SuspendPolicy) (hits : List Hit) :
    StateM Registry Body := do
  let bodies ← hits.mapM f.write
  return .plain (Bytes.ofUInt8 policy.number ++ Bytes.ofCount hits.length) ++ bodies.flatten

/-! ## Reporting -/

/-- Ask the requests of one kind.  Some kinds are reported even if nobody asked. -/
def RequestTable.hits (s : Sighting) (t : RequestTable) (kind : EventKind) :
    List Hit × RequestTable :=
  let (hits, t) := t.ask { s with kind := kind }
  (if hits.isEmpty ∧ kind.isUnsolicited then [⟨0, kind, .none⟩] else hits, t)

/-- Ask the requests of several kinds, in order. -/
def RequestTable.hitsOf (s : Sighting) : List EventKind → RequestTable → List Hit × RequestTable
  | [], t => ([], t)
  | kind :: kinds, t =>
      let (hits, t) := t.hits s kind
      let (more, t) := hitsOf s kinds t
      (hits ++ more, t)

namespace Backend

variable {σ : Type}

/-- Tell the requests that were met, and suspend what they say.  The suspension is in force before
the packet can be seen.  The answer is what they are told. -/
def deliver (f : Finding) (hits : List Hit) (b : Backend σ) : Body × Backend σ :=
  let policy := SuspendPolicy.strongest (hits.map (·.policy))
  let (payload, registry) := (f.composite policy hits).run b.registry
  let packet : CommandPacket := ⟨b.nextPacketId, 64, 100, payload.bytes⟩
  (payload, enqueue
    { b with
      registry := registry
      nextPacketId := b.nextPacketId + 1
      suspension := b.suspension.apply policy f.sighting.thread }
    packet.encode)

/-- Report an occurrence.  The answer is what the requests that were met are told, if any were. -/
def announce [Target σ] (o : Occurrence) (b : Backend σ) :
    Except CommandError (Option Body) × Backend σ :=
  if b.disposed then (.ok none, b)
  else
    let (serial, requests) := b.requests.takeSerial
    let (found, target) := (Finding.find serial o).run b.target
    let b := { b with requests := requests, target := target }
    match found with
    | .error e => (.error (.ofTarget e), b)
    | .ok f =>
      let (hits, requests) := b.requests.hitsOf f.sighting o.kinds
      let b := { b with requests := requests }
      if hits.isEmpty then (.ok none, b)
      else
        let (told, b) := b.deliver f hits
        (.ok (some told), b)

/-- Report an occurrence.  The answer is whether anyone was told. -/
def report [Target σ] (o : Occurrence) (b : Backend σ) : Except CommandError Bool × Backend σ :=
  let (told, b) := b.announce o
  (told.map Option.isSome, b)

end Backend
end DebugWire

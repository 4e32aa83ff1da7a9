import DebugWire.Event.Modifier

/-!
# Event/Request — installed requests, and which of them meet an event

A `Request` is asked about events (`Request.ask`).  It answers an event it was just asked about as
before, and counts nothing twice; it is disabled once one of its counts has nothing left.  A
`RequestTable` holds the requests under their ids; `RequestTable.ask` asks all of one kind, in the
order of their ids.
-/

namespace DebugWire

open Std (TreeMap)

/-- A request to be told of events. -/
structure Request where
  id : Int32
  kind : EventKind
  policy : SuspendPolicy
  modifiers : List Modifier
  enabled : Bool
  /-- The serial of the last event it was asked about, and the answer. -/
  last : Option (UInt64 × Bool)
deriving DecidableEq, Repr

namespace Request

/-- A request that was asked about nothing yet. -/
def new (id : Int32) (kind : EventKind) (policy : SuspendPolicy) (modifiers : List Modifier) :
    Request :=
  ⟨id, kind, policy, modifiers, true, none⟩

/-- The answer that the request gave to this event already, if it was the last. -/
def answered? (s : Sighting) (r : Request) : Option Bool :=
  match r.last with
  | some (serial, answer) => if serial = s.serial then some answer else none
  | none => none

/-- Ask whether the request is met by an event. -/
def ask (s : Sighting) (r : Request) : Bool × Request :=
  match r.answered? s with
  | some answer => (answer, r)
  | none =>
    if r.enabled ∧ s.kind = r.kind then
      let (answer, modifiers) := Modifier.askAll s r.modifiers
      (answer, { r with
        modifiers := modifiers
        last := some (s.serial, answer)
        enabled := !modifiers.any Modifier.isExhausted })
    else (false, r)

@[simp] theorem id_ask (s : Sighting) (r : Request) : (r.ask s).2.id = r.id := by
  unfold ask
  split
  · rfl
  · split <;> rfl

@[simp] theorem kind_ask (s : Sighting) (r : Request) : (r.ask s).2.kind = r.kind := by
  unfold ask
  split
  · rfl
  · split <;> rfl

@[simp] theorem policy_ask (s : Sighting) (r : Request) : (r.ask s).2.policy = r.policy := by
  unfold ask
  split
  · rfl
  · split <;> rfl

end Request

/-- A request that an event meets. -/
structure Hit where
  request : Int32
  kind : EventKind
  policy : SuspendPolicy
deriving DecidableEq, Repr

/-- The installed requests. -/
structure RequestTable where
  nextId : Int32
  byId : TreeMap Int32 Request
  nextSerial : UInt64

namespace RequestTable

/-- No requests. -/
def empty : RequestTable := ⟨1, ∅, 1⟩

/-- A serial for the next event. -/
def takeSerial (t : RequestTable) : UInt64 × RequestTable :=
  (t.nextSerial, { t with nextSerial := t.nextSerial + 1 })

/-- Install a request.  Ids are positive, and start over after the greatest. -/
def set (t : RequestTable) (kind : EventKind) (policy : SuspendPolicy)
    (modifiers : List Modifier) : Int32 × RequestTable :=
  (t.nextId, { t with
    nextId := max (t.nextId + 1) 1
    byId := t.byId.insert t.nextId (Request.new t.nextId kind policy modifiers) })

/-- Remove a request, if it is there and of the kind. -/
def clear (t : RequestTable) (kind : EventKind) (id : Int32) : Bool × RequestTable :=
  if (t.byId[id]?).any (·.kind = kind) then (true, { t with byId := t.byId.erase id })
  else (false, t)

/-- Remove the requests for breakpoints, and tell how many there were. -/
def clearBreakpoints (t : RequestTable) : Nat × RequestTable :=
  let kept := t.byId.filter fun _ r => r.kind ≠ .breakpoint
  (t.byId.size - kept.size, { t with byId := kept })

/-- Remove every request. -/
def clearAll (t : RequestTable) : RequestTable := { t with byId := ∅ }

/-- The requests of the event's kind that it meets, in the order of their ids. -/
def ask (t : RequestTable) (s : Sighting) : List Hit × RequestTable :=
  (t.byId.toList.filterMap fun (_, r) =>
      if r.kind = s.kind ∧ (r.ask s).1 then some ⟨r.id, r.kind, r.policy⟩ else none,
    { t with byId := t.byId.map fun _ r => if r.kind = s.kind then (r.ask s).2 else r })

/-- How many requests there are. -/
def size (t : RequestTable) : Nat := t.byId.size

/-- Whether a request is enabled, if it is there. -/
def isEnabled? (t : RequestTable) (id : Int32) : Option Bool :=
  (t.byId[id]?).map (·.enabled)

end RequestTable
end DebugWire

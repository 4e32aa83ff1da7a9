import DebugWire.Fault
import DebugWire.Registry.Retired

/-!
# Registry/Basic — which id stands for which entity

A `Registry` maps the target's handles to wire ids and back.  Its entries lie in an arena of slots;
a slot carries a generation, so that a key made for an earlier occupant finds nothing.  Ids come
from a counter and are never issued twice.

Entities share an id by `IdSpace`: all objects live in one space, so that an object seen first as a
plain one keeps its id when its kind is learnt (`EntityKind.refine`).

This module holds the table and the operations that issue ids and look them up;
`Registry/Collection` holds those that let go of them.
-/

namespace DebugWire

open Std (TreeMap)

/-- Entities of one space have one id per handle. -/
inductive IdSpace where
  | objects
  | referenceTypes
  | fields
  | methods
  | frames
deriving DecidableEq, Repr

namespace IdSpace

/-- Every space. -/
def all : List IdSpace := [.objects, .referenceTypes, .fields, .methods, .frames]

/-- The space of entities of a kind. -/
def of : EntityKind → IdSpace
  | .object _ => .objects
  | .referenceType => .referenceTypes
  | .field => .fields
  | .method => .methods
  | .frame => .frames

/-- The place of a space among all of them. -/
def rank : IdSpace → Nat
  | .objects => 0
  | .referenceTypes => 1
  | .fields => 2
  | .methods => 3
  | .frames => 4

theorem rank_inj {a b : IdSpace} (h : a.rank = b.rank) : a = b := by
  cases a <;> cases b <;> simp_all [rank]

instance : Ord IdSpace := ⟨compareOn rank⟩
instance : Std.TransOrd IdSpace := inferInstanceAs (Std.TransCmp (compareOn rank))
instance : Std.LawfulEqOrd IdSpace where
  eq_of_compare h := rank_inj (Std.LawfulEqOrd.eq_of_compare (α := Nat) h)

end IdSpace

/-- A plain object is one whose kind may be learnt yet. -/
def EntityKind.refine (known learnt : EntityKind) : EntityKind :=
  if known = .object .plain then learnt else known

/-- What the target knows an entity by, in its space. -/
structure EntityKey where
  space : IdSpace
  handle : Handle
deriving DecidableEq, Repr

namespace EntityKey

instance : Ord EntityKey := ⟨compareLex (compareOn space) (compareOn handle)⟩
instance : Std.TransOrd EntityKey :=
  inferInstanceAs (Std.TransCmp (compareLex (compareOn space) (compareOn handle)))
instance : Std.LawfulEqOrd EntityKey where
  eq_of_compare {a b} h := by
    have h' : (compare a.space b.space).then (compare a.handle b.handle) = .eq := h
    rw [Ordering.then_eq_eq] at h'
    have h₁ := Std.LawfulEqOrd.eq_of_compare h'.1
    have h₂ := Std.LawfulEqOrd.eq_of_compare h'.2
    cases a; cases b; simp_all

end EntityKey

/-- A place in the arena, as it was when the key was made. -/
structure SlotKey where
  index : Nat
  generation : UInt32
deriving DecidableEq, Repr

/-- What is known of an entity that has an id. -/
structure Entry where
  id : WireId
  handle : Handle
  kind : EntityKind
  /-- The tag of a reference type, once it is known. -/
  typeTag : Option TypeTag
  /-- How many times the id was handed out and not returned. -/
  references : Nat
  /-- How many times collection was disabled and not enabled again. -/
  pins : Nat
  /-- The entity was freed while it was pinned. -/
  freed : Bool
  /-- The entity is gone; the entry waits for the next sweep. -/
  dead : Bool
deriving DecidableEq, Repr

/-- An entry as it is when its id is issued. -/
def Entry.fresh (id : WireId) (handle : Handle) (kind : EntityKind) (typeTag : Option TypeTag) :
    Entry :=
  ⟨id, handle, kind, typeTag, 1, 0, false, false⟩

/-- What the target knows the entity by. -/
def Entry.key (e : Entry) : EntityKey := ⟨IdSpace.of e.kind, e.handle⟩

/-- The reference type that the entry stands for, if it does and the tag is known. -/
def Entry.type? (e : Entry) : Option (Handle × TypeTag) :=
  if e.kind = .referenceType then e.typeTag.map (e.handle, ·) else none

/-- The greatest value of a counter. -/
def counterMax : Nat := 4294967295

/-- One more, unless the counter is full. -/
def countUp (n : Nat) : Nat := min (n + 1) counterMax

/-- A place in the arena. -/
structure Slot where
  /-- How many occupants the slot had before. -/
  generation : UInt32
  entry : Option Entry
deriving DecidableEq, Repr

/-- The ids of a session. -/
structure Registry where
  firstId : UInt64
  /-- How many ids were issued. -/
  issued : Nat
  /-- So many dead entries are swept before an id is issued. -/
  threshold : Nat
  slots : Array Slot
  /-- The empty slots, the last one emptied first. -/
  free : List Nat
  byId : TreeMap WireId SlotKey
  byHandle : TreeMap EntityKey SlotKey
  /-- The released ids that named no object. -/
  retired : Retired
  /-- How many entries are dead. -/
  dead : Nat

namespace Registry

/-- A registry that issued nothing yet.  Zero is no id, and a threshold of zero is one of one. -/
def new (firstId : UInt64) (threshold : Nat) : Registry where
  firstId := max firstId 1
  issued := 0
  threshold := max threshold 1
  slots := #[]
  free := []
  byId := ∅
  byHandle := ∅
  retired := .empty
  dead := 0

/-! ## Looking up -/

/-- The occupant of a slot, if it is the one the key was made for. -/
def entryAt? (r : Registry) (key : SlotKey) : Option Entry := do
  let slot ← r.slots[key.index]?
  if slot.generation = key.generation then slot.entry else none

/-- The entry of an id, dead or alive. -/
def tracked? (r : Registry) (id : WireId) : Option Entry := do
  r.entryAt? (← r.byId[id]?)

/-- The entry of an id that still resolves. -/
def live? (r : Registry) (id : WireId) : Option Entry :=
  (r.tracked? id).filter (!·.dead)

/-- The place and the entry of an entity that has an id. -/
def named? (r : Registry) (key : EntityKey) : Option (SlotKey × Entry) := do
  let slotKey ← r.byHandle[key]?
  let entry ← r.entryAt? slotKey
  if entry.dead then none else some (slotKey, entry)

/-- How many entries still resolve. -/
def liveCount (r : Registry) : Nat :=
  r.byId.keys.countP fun id => (r.live? id).isSome

/-- How many entries there are, dead or alive. -/
def trackedCount (r : Registry) : Nat := r.byId.size

/-- The entity that an id names, if it is of the expected kind. -/
def resolve (r : Registry) (id : WireId) (expected : EntityKind) : Except CommandError Handle :=
  match r.live? id with
  | some e => if expected.accepts e.kind then .ok e.handle else .error (.invalidId expected id)
  | none => .error (.invalidId expected id)

/-- As `resolve`; the null id names no entity. -/
def resolveOptional (r : Registry) (id : WireId) (expected : EntityKind) :
    Except CommandError (Option Handle) :=
  if id = .null then .ok none else some <$> r.resolve id expected

/-- The reference type that an id names, with its tag. -/
def resolveType (r : Registry) (id : WireId) : Except CommandError (Handle × TypeTag) :=
  match (r.live? id).bind Entry.type? with
  | some type => .ok type
  | none => .error (.invalidId .referenceType id)

/-- The kind of the entity that an id names. -/
def kindOf? (r : Registry) (id : WireId) : Option EntityKind :=
  (r.live? id).map (·.kind)

/-! ## Letting go of entries -/

/-- Put an entry back into its slot. -/
def update (r : Registry) (key : SlotKey) (e : Entry) : Registry :=
  { r with slots := r.slots.setIfInBounds key.index ⟨key.generation, some e⟩ }

/-- Forget which entry stands for a handle, if it is the one at `slotKey`. -/
def forgetHandle (r : Registry) (key : EntityKey) (slotKey : SlotKey) : Registry :=
  { r with byHandle :=
      if r.byHandle[key]? = some slotKey then r.byHandle.erase key else r.byHandle }

/-- Empty the slot of an id for the next occupant.  The id never stands for anything again. -/
def release (r : Registry) (id : WireId) : Registry :=
  match r.byId[id]? with
  | none => r
  | some key =>
    match r.entryAt? key with
    | none => r
    | some e =>
      { r.forgetHandle e.key key with
        slots := r.slots.setIfInBounds key.index ⟨key.generation + 1, none⟩
        free := key.index :: r.free
        byId := r.byId.erase id
        retired := if e.kind.isObject then r.retired else r.retired.insert id.raw.toNat
        dead := if e.dead then r.dead - 1 else r.dead }

/-- Release all ids of a list. -/
def releaseAll (r : Registry) (ids : List WireId) : Registry := ids.foldl release r

/-- The tracked ids whose entry passes a test, in ascending order. -/
def idsWhere (r : Registry) (p : Entry → Bool) : List WireId :=
  r.byId.keys.filter fun id => (r.tracked? id).any p

/-- Release every dead entry, and tell how many there were. -/
def sweep (r : Registry) : Nat × Registry :=
  let ids := r.idsWhere (·.dead)
  (ids.length, r.releaseAll ids)

/-- Sweep, if there is enough to sweep. -/
def sweepIfDue (r : Registry) : Registry :=
  if r.threshold ≤ r.dead then r.sweep.2 else r

/-! ## Issuing ids -/

/-- The next id to issue.  The counter starts over behind the greatest id. -/
def nextId (r : Registry) : UInt64 := r.firstId + UInt64.ofNat r.issued

/-- Put an entry into an empty slot, or into a new one. -/
def occupy (r : Registry) (e : Entry) : SlotKey × Registry :=
  match r.free with
  | index :: free =>
      let generation := (r.slots[index]?.map (·.generation)).getD 0
      (⟨index, generation⟩,
        { r with slots := r.slots.setIfInBounds index ⟨generation, some e⟩, free := free })
  | [] => (⟨r.slots.size, 0⟩, { r with slots := r.slots.push ⟨0, some e⟩ })

/-- Take in an entry that has the next id. -/
def enter (r : Registry) (e : Entry) : Registry :=
  let (key, r) := r.occupy e
  { r with
    issued := r.issued + 1
    byId := r.byId.insert e.id key
    byHandle := r.byHandle.insert e.key key }

/-- Issue the next id. -/
def issue (r : Registry) (handle : Handle) (kind : EntityKind) (typeTag : Option TypeTag) :
    WireId × Registry :=
  let id : WireId := ⟨r.nextId⟩
  (id, r.enter (.fresh id handle kind typeTag))

/-- The id of an entity, handed out once more; an entity without one gets the next.  A reference
type registered here has no tag yet. -/
def register (r : Registry) (handle : Handle) (kind : EntityKind) : WireId × Registry :=
  match r.named? ⟨IdSpace.of kind, handle⟩ with
  | some (key, e) =>
      (e.id, r.update key
        { e with references := countUp e.references, kind := e.kind.refine kind })
  | none => r.sweepIfDue.issue handle kind none

/-- The id of an entity, or null where there is none. -/
def registerOptional (r : Registry) (handle : Option Handle) (kind : EntityKind) :
    WireId × Registry :=
  match handle with
  | some handle => r.register handle kind
  | none => (.null, r)

/-- The id of a reference type, with its tag.  The first tag it got stays. -/
def registerTagged (r : Registry) (handle : Handle) (tag : TypeTag) : TypeRef × Registry :=
  match r.named? ⟨.referenceTypes, handle⟩ with
  | some (key, e) =>
      let tag := e.typeTag.getD tag
      (⟨tag, e.id⟩, r.update key
        { e with references := countUp e.references, typeTag := some tag })
  | none =>
      let (id, r) := r.sweepIfDue.issue handle .referenceType (some tag)
      (⟨tag, id⟩, r)

/-- The id of a reference type whose tag is known.  A reference is counted also where the tag is
missing. -/
def knownType (r : Registry) (handle : Handle) : Option TypeRef × Registry :=
  match r.named? ⟨.referenceTypes, handle⟩ with
  | some (key, e) =>
      (e.typeTag.map (⟨·, e.id⟩), r.update key { e with references := countUp e.references })
  | none => (none, r)

end Registry
end DebugWire

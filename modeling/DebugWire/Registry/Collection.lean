import DebugWire.Registry.Basic

/-!
# Registry/Collection — how ids end

An id ends when the debugger gives it back (`dispose`, `disposeObjects`), when the target reports
that its entity is gone (`entityFreed`), or in bulk (`invalidateFrames`, `disposeAll`).  A pinned
object outlives its entity until the last pin is removed.  `isCollected` tells an id whose object is
gone from one that never named an object.
-/

namespace DebugWire.Registry

/-- Release an id, pinned or not. -/
def dispose (r : Registry) (id : WireId) : Registry :=
  if id = .null then r else r.release id

/-- Take back `count` references to an object.  Without any, and without pins, its id is
released. -/
def disposeObjects (r : Registry) (id : WireId) (count : Nat) : Registry :=
  match r.byId[id]? with
  | none => r
  | some key =>
    match r.entryAt? key with
    | none => r
    | some e =>
      if id = .null ∨ !e.kind.isObject then r
      else
        let r := r.update key { e with references := e.references - count }
        if e.references - count = 0 ∧ e.pins = 0 then r.release id else r

/-- Mark an entry dead: its id no longer resolves, and its handle is free for a new one. -/
def markDead (r : Registry) (key : SlotKey) : Registry :=
  match r.entryAt? key with
  | none => r
  | some e =>
    if e.dead then r
    else { (r.update key { e with dead := true }).forgetHandle e.key key with dead := r.dead + 1 }

/-- The entity of one space is gone.  A pinned one is only noted to be. -/
def freeIn (handle : Handle) (r : Registry) (space : IdSpace) : Registry :=
  match r.byHandle[(⟨space, handle⟩ : EntityKey)]? with
  | none => r
  | some key =>
    match r.entryAt? key with
    | none => r
    | some e => if 0 < e.pins then r.update key { e with freed := true } else r.markDead key

/-- The target reports that whatever it knew by a handle is gone. -/
def entityFreed (r : Registry) (handle : Handle) : Registry :=
  (IdSpace.all.foldl (freeIn handle) r).sweepIfDue

/-- Pin an object. -/
def disableCollection (r : Registry) (id : WireId) : Except CommandError Registry :=
  match r.byId[id]?, r.live? id with
  | some key, some e =>
      if e.kind.isObject then .ok (r.update key { e with pins := countUp e.pins })
      else .error (.invalidId (.object .plain) id)
  | _, _ => .error (.invalidId (.object .plain) id)

/-- Remove a pin of an object.  An id that no longer resolves is let pass. -/
def enableCollection (r : Registry) (id : WireId) : Except CommandError Registry :=
  match r.byId[id]?, r.live? id with
  | some key, some e =>
      if e.kind.isObject then
        let pins := e.pins - 1
        let r := r.update key { e with pins := pins }
        .ok (if pins = 0 ∧ e.freed then (r.markDead key).sweepIfDue else r)
      else .error (.invalidId (.object .plain) id)
  | _, _ => .ok r

/-- Whether the object that an id named is gone. -/
def isCollected (r : Registry) (id : WireId) : Except CommandError Bool :=
  if id = .null ∨ id.raw < r.firstId ∨ r.nextId ≤ id.raw ∨ r.retired.contains id.raw.toNat then
    .error (.invalidId (.object .plain) id)
  else
    match r.tracked? id with
    | some e => if e.kind.isObject then .ok e.dead else .error (.invalidId (.object .plain) id)
    | none => .ok true

/-- Release every frame id. -/
def invalidateFrames (r : Registry) : Registry := r.releaseAll (r.idsWhere (·.kind = .frame))

/-- Release every id.  The counter goes on counting. -/
def disposeAll (r : Registry) : Registry := r.releaseAll r.byId.keys

end DebugWire.Registry

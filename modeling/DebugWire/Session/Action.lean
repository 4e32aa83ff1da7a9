import DebugWire.Session.Backend
import DebugWire.Session.Body

/-!
# Session/Action — steps of a command

An `Action` reads a payload and works on a backend.  It answers, or fails with a `CommandError`;
either way the backend is as the steps before left it.  `Action.perform` runs one on a whole
payload.  Whoever hands out an id writes it down with its entity, in a `Body`.
-/

namespace DebugWire

/-- A command being carried out. -/
structure Call (σ : Type) where
  backend : Backend σ
  /-- What is left of the payload. -/
  cursor : Cursor

/-- A step of a command. -/
abbrev Action (σ : Type) := Attempt CommandError (Call σ)

namespace Action

variable {σ α : Type}

/-- Carry out an action on a payload. -/
def perform (x : Action σ α) (payload : Bytes) (b : Backend σ) :
    Except CommandError α × Backend σ :=
  let (r, c) := x.run ⟨b, .start payload⟩
  (r, c.backend)

/-- The backend as it is. -/
def backend : Action σ (Backend σ) := (·.backend) <$> (get : Action σ (Call σ))

/-- Change the backend. -/
def edit (f : Backend σ → Backend σ) : Action σ Unit :=
  modify fun c => { c with backend := f c.backend }

/-- Read from the payload. -/
def read (x : Read α) : Action σ α :=
  Attempt.within (·.cursor) (fun t c => { c with cursor := t }) .malformed x

/-- Read from the payload, resolving ids. -/
def decode (x : Registry → Decode α) : Action σ α := do
  let b ← backend
  Attempt.within (·.cursor) (fun t c => { c with cursor := t }) id (x b.registry)

/-- Call the target. -/
def call (x : TargetCall σ α) : Action σ α :=
  Attempt.within (·.backend.target)
    (fun t c => { c with backend := { c.backend with target := t } }) .ofTarget x

/-- Work on the registry. -/
def registry (f : Registry → α × Registry) : Action σ α :=
  Attempt.ofStep fun c =>
    let (a, r) := f c.backend.registry
    (a, { c with backend := { c.backend with registry := r } })

/-- Ask the registry. -/
def lookUp (f : Registry → Except CommandError α) : Action σ α := do
  Attempt.ofExcept (f (← backend).registry)

/-- Change the registry, if it lets itself be changed. -/
def tryRegistry (f : Registry → Except CommandError Registry) : Action σ Unit := do
  let r ← lookUp f
  registry fun _ => ((), r)

/-- Refuse the command. -/
def refuse (code : ReplyCode) : Action σ α := throw (.refused code)

/-- Read so many items of a list. -/
def times (n : Nat) (x : Action σ α) : Action σ (List α) :=
  match n with
  | 0 => return []
  | n + 1 => do
      let a ← x
      return a :: (← times n x)

/-- The written form of a list: how long it is, then its items. -/
def list (xs : List α) (item : α → Action σ Body) : Action σ Body := do
  let items ← xs.mapM item
  return .plain (Bytes.ofCount xs.length) ++ items.flatten

/-! ## Ids in, ids out -/

/-- Read the id of an entity of a kind. -/
def entity (kind : EntityKind) : Action σ Handle := decode (·.readEntity kind)

/-- Read the id of a reference type. -/
def type : Action σ Handle := do return (← decode (·.readType)).1

/-- The id of an entity, handed out. -/
def idOf (handle : Handle) (kind : EntityKind) : Action σ Body :=
  Body.ofEntity handle <$> registry (·.register handle kind)

/-- The id of an entity, or null. -/
def idOf? (handle : Option Handle) (kind : EntityKind) : Action σ Body :=
  Body.ofOptional handle <$> registry (·.registerOptional handle kind)

/-- The id and the tag of a reference type.  The target is asked for the tag of a type whose tag is
not known yet. -/
def typeRef [Target σ] (type : Handle) : Action σ TypeRef := do
  match ← registry (·.knownType type) with
  | some t => return t
  | none =>
      let facts ← call (Target.typeFacts type)
      registry (·.registerTagged type facts.typeTag)

/-- The wire form of a reference type. -/
def typeOf [Target σ] (type : Handle) : Action σ Body := Body.ofTypeRef type <$> typeRef type

/-- The wire form of a code position, as part of a body. -/
def place [Target σ] (method : Handle) (index : UInt64) : Action σ Body := do
  let facts ← call (Target.methodFacts method)
  let t ← typeRef facts.declaringType
  let id ← registry (·.register method .method)
  return .ofPosition facts.declaringType method ⟨t.tag, t.id, id, index⟩

/-- The wire form of a code position. -/
def position [Target σ] (method : Handle) (index : UInt64) : Action σ Bytes :=
  Body.bytes <$> place method index

/-- The tag and the wire form of a value. -/
def tagged (v : TargetValue) : Action σ Body := Body.ofTagged v <$> registry (·.toWire v)

/-- The wire form of a value, without the tag. -/
def untagged (v : TargetValue) : Action σ Body := Body.ofValue v <$> registry (·.toWire v)

end Action
end DebugWire

import DebugWire.Event.Kind
import DebugWire.Event.Pattern
import DebugWire.Registry.Exchange

/-!
# Event/Modifier — the filters of an event request

A `Sighting` is everything a filter may look at when an event happened.  A `Modifier` is one filter:
`Modifier.accepts` is its answer, and `Modifier.spent` what is left of it after it was asked.  Only
a count changes by being asked.
-/

namespace DebugWire

/-- A code position in the target. -/
structure Site where
  declaringType : Handle
  method : Handle
  index : UInt64
deriving DecidableEq, Repr

/-- What is known of an event. -/
structure Sighting where
  /-- Tells one event of the target from the next. -/
  serial : UInt64
  kind : EventKind
  thread : Option Handle := none
  site : Option Site := none
  /-- The type of the event, then its supertypes. -/
  types : List Handle := []
  className : Option String := none
  sourceName : Option String := none
  /-- The type thrown, then its supertypes. -/
  thrown : List Handle := []
  /-- Whether the exception will be caught. -/
  caught : Option Bool := none
  field : Option Handle := none
  /-- The object that the code runs on, or whose field is concerned. -/
  receiver : Option Handle := none
  /-- The size and the depth of a step. -/
  step : Option (Int32 × Int32) := none
deriving DecidableEq, Repr

/-- A filter of an event request. -/
inductive Modifier where
  /-- Lets so many events through. -/
  | count (remaining : Nat)
  /-- Reserved by the protocol; lets everything through. -/
  | conditional (expression : Int32)
  | threadOnly (thread : Handle)
  | classOnly (type : Handle)
  | classMatch (pattern : ClassPattern)
  | classExclude (pattern : ClassPattern)
  | siteOnly (site : Site)
  | exceptionOnly (type : Option Handle) (caught uncaught : Bool)
  | fieldOnly (declaringType field : Handle)
  | step (thread : Handle) (size depth : Int32)
  | receiverOnly (receiver : Option Handle)
  | sourceMatch (pattern : ClassPattern)
deriving DecidableEq, Repr

namespace Modifier

/-- Whether the filter lets an event through. -/
def accepts (s : Sighting) : Modifier → Bool
  | .count remaining => 0 < remaining
  | .conditional _ => true
  | .threadOnly thread => s.thread = some thread
  | .classOnly type => type ∈ s.types
  | .classMatch pattern => s.className.any pattern.accepts
  | .classExclude pattern => !s.className.any pattern.accepts
  | .siteOnly site => s.site = some site
  | .exceptionOnly type caught uncaught =>
      type.all (· ∈ s.thrown) &&
        match s.caught with
        | some true => caught
        | some false => uncaught
        | none => false
  | .fieldOnly _ field => s.field = some field
  | .step thread size depth =>
      s.thread = some thread && s.step.all (· = (size, depth))
  | .receiverOnly receiver => s.receiver = receiver
  | .sourceMatch pattern => s.sourceName.any pattern.accepts

/-- What is left of the filter after it was asked. -/
def spent : Modifier → Modifier
  | .count remaining => .count (remaining - 1)
  | m => m

/-- Whether the filter lets nothing through any more. -/
def isExhausted : Modifier → Bool
  | .count 0 => true
  | _ => false

/-- Ask filters in order until one refuses.  The answer comes with what is left of all of them. -/
def askAll (s : Sighting) : List Modifier → Bool × List Modifier
  | [] => (true, [])
  | m :: ms =>
      if m.accepts s then
        let (answer, ms) := askAll s ms
        (answer, m.spent :: ms)
      else (false, m.spent :: ms)

@[simp] theorem askAll_nil (s : Sighting) : askAll s [] = (true, []) := rfl

theorem askAll_cons_of_accepts {s : Sighting} {m : Modifier} (h : m.accepts s = true)
    (ms : List Modifier) :
    askAll s (m :: ms) = ((askAll s ms).1, m.spent :: (askAll s ms).2) := by
  simp [askAll, h]

theorem askAll_cons_of_not_accepts {s : Sighting} {m : Modifier} (h : m.accepts s = false)
    (ms : List Modifier) : askAll s (m :: ms) = (false, m.spent :: ms) := by
  simp [askAll, h]

/-- **An event passes a chain exactly when every filter lets it through.** -/
theorem askAll_fst (s : Sighting) (ms : List Modifier) :
    (askAll s ms).1 = ms.all (accepts s) := by
  induction ms with
  | nil => rfl
  | cons m ms ih =>
    cases h : m.accepts s with
    | true => rw [askAll_cons_of_accepts h, List.all_cons, h, Bool.true_and, ih]
    | false => rw [askAll_cons_of_not_accepts h, List.all_cons, h, Bool.false_and]

/-! ## Reading -/

/-- Read a class pattern. -/
def readPattern : Decode ClassPattern := ClassPattern.parse <$> Decode.part Read.string

/-- Read a count, which must be positive. -/
def readCount : Decode Nat := do
  let n ← Decode.part Read.int32
  if n ≤ 0 then throw (.malformed (.invalidCount n)) else return n.toNatClampNeg

/-- Read one filter of a request, and resolve the ids in it. -/
def read (r : Registry) : Decode Modifier := do
  match ← Decode.part Read.uint8 with
  | 1 => return .count (← readCount)
  | 2 => return .conditional (← Decode.part Read.int32)
  | 3 => return .threadOnly (← r.readEntity (.object .thread))
  | 4 => return .classOnly (← r.readType).1
  | 5 => return .classMatch (← readPattern)
  | 6 => return .classExclude (← readPattern)
  | 7 =>
      let p ← r.readPosition
      return .siteOnly ⟨p.declaringType, p.method, p.wire.index⟩
  | 8 =>
      let id ← Decode.part Read.wireId
      let type ← if id = .null then pure none
        else (some ·.1) <$> Attempt.ofExcept (r.resolveType id)
      let caught ← Decode.part Read.bool
      let uncaught ← Decode.part Read.bool
      return .exceptionOnly type caught uncaught
  | 9 =>
      let (declaringType, _) ← r.readType
      let field ← r.readEntity .field
      return .fieldOnly declaringType field
  | 10 =>
      let thread ← r.readEntity (.object .thread)
      let size ← Decode.part Read.int32
      let depth ← Decode.part Read.int32
      return .step thread size depth
  | 11 =>
      let id ← Decode.part Read.wireId
      return .receiverOnly (← Attempt.ofExcept (r.resolveOptional id (.object .plain)))
  | 12 => return .sourceMatch (← readPattern)
  | raw => throw (.malformed (.unknownModifier raw))

end Modifier
end DebugWire

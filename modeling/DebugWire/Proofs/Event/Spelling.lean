import DebugWire.Event.Modifier
import DebugWire.Proofs.Registry.Position
import Mathlib.Data.List.Forall2

/-!
# Proofs/Event/Spelling — how a filter is spelled

A debugger writes a filter as the number of its kind and the fields that belong to the kind
(`WireModifier.bytes`); entities stand there as ids.  By a table of ids it stands for a `Modifier`
(`WireModifier.StandsFor`), unless its count is not positive or one of its ids resolves to nothing.
Reading a filter accepts exactly what is spelled so, and takes no byte more (`parses_read`).
-/

namespace DebugWire

/-- A filter as a debugger writes it.  Any byte but 0 says yes. -/
inductive WireModifier where
  | count (n : Int32)
  | conditional (expression : Int32)
  | threadOnly (thread : WireId)
  | classOnly (type : WireId)
  | classMatch (pattern : String)
  | classExclude (pattern : String)
  | siteOnly (place : Position)
  /-- The null id stands for every type. -/
  | exceptionOnly (type : WireId) (caught uncaught : UInt8)
  | fieldOnly (declaringType field : WireId)
  | step (thread : WireId) (size depth : Int32)
  /-- The null id stands for static code. -/
  | receiverOnly (receiver : WireId)
  | sourceMatch (pattern : String)
deriving DecidableEq, Repr

namespace WireModifier

/-- The number of the kind. -/
def number : WireModifier → UInt8
  | count _ => 1
  | conditional _ => 2
  | threadOnly _ => 3
  | classOnly _ => 4
  | classMatch _ => 5
  | classExclude _ => 6
  | siteOnly _ => 7
  | exceptionOnly .. => 8
  | fieldOnly .. => 9
  | step .. => 10
  | receiverOnly _ => 11
  | sourceMatch _ => 12

/-- What is written behind the number. -/
def fields : WireModifier → Bytes
  | count n => Bytes.ofInt32 n
  | conditional expression => Bytes.ofInt32 expression
  | threadOnly thread => Bytes.ofWireId thread
  | classOnly type => Bytes.ofWireId type
  | classMatch pattern => Bytes.ofString pattern
  | classExclude pattern => Bytes.ofString pattern
  | siteOnly place => Bytes.ofPosition place
  | exceptionOnly type caught uncaught =>
      Bytes.ofWireId type ++ Bytes.ofUInt8 caught ++ Bytes.ofUInt8 uncaught
  | fieldOnly declaringType field => Bytes.ofWireId declaringType ++ Bytes.ofWireId field
  | step thread size depth => Bytes.ofWireId thread ++ Bytes.ofInt32 size ++ Bytes.ofInt32 depth
  | receiverOnly receiver => Bytes.ofWireId receiver
  | sourceMatch pattern => Bytes.ofString pattern

/-- The written form. -/
def bytes (w : WireModifier) : Bytes := Bytes.ofUInt8 w.number ++ w.fields

/-- The length of the text fits the field in front of it. -/
def Fits (text : String) : Prop := (Utf8.encode text).length < 2 ^ 32

instance (text : String) : Decidable (Fits text) :=
  inferInstanceAs (Decidable ((Utf8.encode text).length < 2 ^ 32))

/-- The filter that is meant: a count is positive, and each id is that of an entity of the kind that
belongs there. -/
def StandsFor (r : Registry) (w : WireModifier) (m : Modifier) : Prop :=
  match w with
  | count n => 0 < n ∧ m = .count n.toNatClampNeg
  | conditional expression => m = .conditional expression
  | threadOnly id => ∃ thread, r.resolve id (.object .thread) = .ok thread ∧ m = .threadOnly thread
  | classOnly id => ∃ type, r.resolveType id = .ok type ∧ m = .classOnly type.1
  | classMatch text => Fits text ∧ m = .classMatch (.parse text)
  | classExclude text => Fits text ∧ m = .classExclude (.parse text)
  | siteOnly place => ∃ type method, r.Bears ⟨place, type, method⟩ ∧
      m = .siteOnly ⟨type, method, place.index⟩
  | exceptionOnly id caught uncaught => ∃ type,
      (if id = .null then type = none
        else ∃ known, r.resolveType id = .ok known ∧ type = some known.1) ∧
      m = .exceptionOnly type (caught != 0) (uncaught != 0)
  | fieldOnly typeId fieldId => ∃ type field, r.resolveType typeId = .ok type ∧
      r.resolve fieldId .field = .ok field ∧ m = .fieldOnly type.1 field
  | step id size depth => ∃ thread, r.resolve id (.object .thread) = .ok thread ∧
      m = .step thread size depth
  | receiverOnly id => ∃ receiver, r.resolveOptional id (.object .plain) = .ok receiver ∧
      m = .receiverOnly receiver
  | sourceMatch text => Fits text ∧ m = .sourceMatch (.parse text)

/-! ## Reading a filter -/

variable (r : Registry)

/-- A count must be positive. -/
theorem parses_readCount : Parses id Modifier.readCount fun bs k =>
    ∃ n, bs = Bytes.ofInt32 n ∧ 0 < n ∧ k = n.toNatClampNeg :=
  ((Parses.part Read.parses_int32).last fun _ => .refusing _ _).congr fun bs k => by
    simp only [Int32.not_le]

/-- A filter by a pattern, of which there are three. -/
theorem parses_pattern (filter : ClassPattern → Modifier) :
    Parses id (Modifier.readPattern >>= fun pattern => pure (filter pattern)) fun bs m =>
      ∃ text, bs = Bytes.ofString text ∧ Fits text ∧ m = filter (.parse text) := by
  refine (((Parses.part Read.parses_string).map ClassPattern.parse).last fun _ =>
    .pure _).congr fun bs m => ?_
  constructor
  · rintro ⟨_, ⟨text, ⟨hfits, rfl⟩, rfl⟩, rfl⟩
    exact ⟨text, rfl, hfits, rfl⟩
  · rintro ⟨text, rfl, hfits, rfl⟩
    exact ⟨_, ⟨text, ⟨hfits, rfl⟩, rfl⟩, rfl⟩

/-- The type of an exception, once its id is read, and what follows. -/
theorem parses_exceptionType {α : Type} {F : Option Handle → Bytes → α → Prop} (typeId : WireId)
    {x : Option Handle → Decode α} (hx : ∀ type, Parses id (x type) (F type)) :
    Parses id (if typeId = .null then Pure.pure none >>= x
      else (some ·.1) <$> Attempt.ofExcept (r.resolveType typeId) >>= x)
      fun bs a => ∃ type, (if typeId = .null then type = none
        else ∃ known, r.resolveType typeId = .ok known ∧ type = some known.1) ∧ F type bs a := by
  split
  · refine ((Parses.pure none).bind hx).congr fun bs a => ?_
    constructor
    · rintro ⟨_, _, _, ⟨rfl, rfl⟩, hF, rfl⟩
      exact ⟨none, rfl, hF⟩
    · rintro ⟨_, rfl, hF⟩
      exact ⟨[], bs, none, ⟨rfl, rfl⟩, hF, rfl⟩
  · refine (((Parses.ofExcept _).map _).bind hx).congr fun bs a => ?_
    constructor
    · rintro ⟨_, _, _, ⟨known, ⟨rfl, hknown⟩, rfl⟩, hF, rfl⟩
      exact ⟨_, ⟨known, hknown, rfl⟩, hF⟩
    · rintro ⟨_, ⟨known, hknown, rfl⟩, hF⟩
      exact ⟨[], bs, _, ⟨known, ⟨rfl, hknown⟩, rfl⟩, hF, rfl⟩

/-- The bytes are the fields of a filter whose kind has the number. -/
def Spelled (number : UInt8) (bs : Bytes) (m : Modifier) : Prop :=
  ∃ w : WireModifier, w.number = number ∧ bs = w.fields ∧ w.StandsFor r m

variable {r}

/-- It is enough to look at the fields of one kind. -/
theorem Spelled.of_kind {α : Type} {x : Decode Modifier} {number : UInt8} (make : α → WireModifier)
    (hmake : ∀ w : WireModifier, w.number = number ↔ ∃ a, w = make a)
    (hx : Parses id x fun bs m => ∃ a, bs = (make a).fields ∧ (make a).StandsFor r m) :
    Parses id x (Spelled r number) := by
  refine hx.congr fun bs m => ?_
  constructor
  · rintro ⟨a, rfl, hm⟩
    exact ⟨make a, (hmake _).mpr ⟨a, rfl⟩, rfl, hm⟩
  · rintro ⟨w, hnumber, rfl, hm⟩
    obtain ⟨a, rfl⟩ := (hmake w).mp hnumber
    exact ⟨a, rfl, hm⟩

/-- **Reading a filter accepts exactly what spells one.** -/
theorem parses_read (r : Registry) : Parses id (Modifier.read r) fun bs m =>
    ∃ w : WireModifier, bs = w.bytes ∧ w.StandsFor r m := by
  refine ((Parses.part Read.parses_uint8).bind (G := Spelled r) fun raw => ?_).congr
    fun bs m => ?_
  · -- The number decides whose fields follow, kind after kind; behind the last it is refused.
    split
    · refine Spelled.of_kind count (by rintro ⟨⟩ <;> simp [number]) ?_
      refine (parses_readCount.last fun k => .pure _).congr fun bs m => ?_
      constructor
      · rintro ⟨_, ⟨n, rfl, hn, rfl⟩, rfl⟩
        exact ⟨n, rfl, hn, rfl⟩
      · rintro ⟨n, rfl, hn, rfl⟩
        exact ⟨_, ⟨n, rfl, hn, rfl⟩, rfl⟩
    · refine Spelled.of_kind conditional (by rintro ⟨⟩ <;> simp [number]) ?_
      exact (Parses.part Read.parses_int32).last fun expression => .pure _
    · refine Spelled.of_kind threadOnly (by rintro ⟨⟩ <;> simp [number]) ?_
      exact (r.parses_readEntity (.object .thread)).written _
    · refine Spelled.of_kind classOnly (by rintro ⟨⟩ <;> simp [number]) ?_
      exact r.parses_readType.written fun type => Modifier.classOnly type.1
    · refine Spelled.of_kind classMatch (by rintro ⟨⟩ <;> simp [number]) ?_
      exact parses_pattern .classMatch
    · refine Spelled.of_kind classExclude (by rintro ⟨⟩ <;> simp [number]) ?_
      exact parses_pattern .classExclude
    · refine Spelled.of_kind siteOnly (by rintro ⟨⟩ <;> simp [number]) ?_
      refine (r.parses_readPosition.last fun place => .pure _).congr fun bs m => ?_
      constructor
      · rintro ⟨place, ⟨rfl, hbears⟩, rfl⟩
        exact ⟨place.wire, rfl, place.declaringType, place.method, hbears, rfl⟩
      · rintro ⟨place, rfl, type, method, hbears, rfl⟩
        exact ⟨⟨place, type, method⟩, ⟨rfl, hbears⟩, rfl⟩
    · refine Spelled.of_kind (fun (id, caught, uncaught) => exceptionOnly id caught uncaught)
        (by rintro ⟨⟩ <;> simp [number]) ?_
      refine ((Parses.part Read.parses_wireId).bind fun id =>
        (parses_exceptionType r id fun type =>
          (Parses.part Read.parses_bool).bind fun caught =>
            (Parses.part Read.parses_bool).last fun uncaught => .pure _)).congr fun bs m => ?_
      constructor
      · rintro ⟨_, _, id, rfl, ⟨type, htype, _, _, _, ⟨caught, rfl, rfl⟩, ⟨_, ⟨uncaught, rfl, rfl⟩,
          rfl⟩, rfl⟩, rfl⟩
        exact ⟨(id, caught, uncaught), (List.append_assoc _ _ _).symm, type, htype, rfl⟩
      · rintro ⟨⟨id, caught, uncaught⟩, rfl, type, htype, rfl⟩
        exact ⟨_, _, id, rfl, ⟨type, htype, _, _, _, ⟨caught, rfl, rfl⟩, ⟨_, ⟨uncaught, rfl, rfl⟩,
          rfl⟩, rfl⟩, List.append_assoc _ _ _⟩
    · refine Spelled.of_kind (fun (typeId, fieldId) => fieldOnly typeId fieldId)
        (by rintro ⟨⟩ <;> simp [number]) ?_
      refine (r.parses_readType.bind fun type =>
        (r.parses_readEntity .field).last fun field => .pure _).congr fun bs m => ?_
      constructor
      · rintro ⟨_, _, type, ⟨typeId, rfl, htype⟩, ⟨field, ⟨fieldId, rfl, hfield⟩, rfl⟩, rfl⟩
        exact ⟨(typeId, fieldId), rfl, type, field, htype, hfield, rfl⟩
      · rintro ⟨⟨typeId, fieldId⟩, rfl, type, field, htype, hfield, rfl⟩
        exact ⟨_, _, type, ⟨typeId, rfl, htype⟩, ⟨field, ⟨fieldId, rfl, hfield⟩, rfl⟩, rfl⟩
    · refine Spelled.of_kind (fun (id, size, depth) => step id size depth)
        (by rintro ⟨⟩ <;> simp [number]) ?_
      refine ((r.parses_readEntity (.object .thread)).bind fun thread =>
        (Parses.part Read.parses_int32).bind fun size =>
          (Parses.part Read.parses_int32).last fun depth => .pure _).congr fun bs m => ?_
      constructor
      · rintro ⟨_, _, thread, ⟨id, rfl, hthread⟩, ⟨_, _, size, rfl, ⟨depth, rfl, rfl⟩, rfl⟩, rfl⟩
        exact ⟨(id, size, depth), (List.append_assoc _ _ _).symm, thread, hthread, rfl⟩
      · rintro ⟨⟨id, size, depth⟩, rfl, thread, hthread, rfl⟩
        exact ⟨_, _, thread, ⟨id, rfl, hthread⟩, ⟨_, _, size, rfl, ⟨depth, rfl, rfl⟩, rfl⟩,
          List.append_assoc _ _ _⟩
    · refine Spelled.of_kind receiverOnly (by rintro ⟨⟩ <;> simp [number]) ?_
      refine ((Parses.part Read.parses_wireId).bind fun id =>
        (Parses.ofExcept _).last fun receiver => .pure _).congr fun bs m => ?_
      constructor
      · rintro ⟨_, _, id, rfl, ⟨receiver, ⟨rfl, hreceiver⟩, rfl⟩, rfl⟩
        exact ⟨id, List.append_nil _, receiver, hreceiver, rfl⟩
      · rintro ⟨id, rfl, receiver, hreceiver, rfl⟩
        exact ⟨_, _, id, rfl, ⟨receiver, ⟨rfl, hreceiver⟩, rfl⟩, (List.append_nil _).symm⟩
    · refine Spelled.of_kind sourceMatch (by rintro ⟨⟩ <;> simp [number]) ?_
      exact parses_pattern .sourceMatch
    · refine (Parses.throw _).congr fun bs m => iff_of_false id ?_
      rintro ⟨w, rfl, -, -⟩
      cases w <;> simp_all [number]
  · constructor
    · rintro ⟨_, _, _, rfl, ⟨w, rfl, rfl, hw⟩, rfl⟩
      exact ⟨w, rfl, hw⟩
    · rintro ⟨w, rfl, hw⟩
      exact ⟨_, _, w.number, rfl, ⟨w, rfl, rfl, hw⟩, rfl⟩

end WireModifier

/-! ## Requests -/

/-- A request as a debugger writes it. -/
structure WireRequest where
  kind : EventKind
  policy : SuspendPolicy
  modifiers : List WireModifier
deriving DecidableEq, Repr

namespace WireRequest

/-- The written form. -/
def bytes (q : WireRequest) : Bytes :=
  Bytes.ofUInt8 q.kind.number ++ Bytes.ofUInt8 q.policy.number ++
    Bytes.ofCount q.modifiers.length ++ q.modifiers.flatMap WireModifier.bytes

/-- The filters that are meant, in order.  Their number fits the field in front of them. -/
def StandsFor (r : Registry) (q : WireRequest) (ms : List Modifier) : Prop :=
  q.modifiers.length < 2 ^ 31 ∧ List.Forall₂ (WireModifier.StandsFor r) q.modifiers ms

end WireRequest
end DebugWire

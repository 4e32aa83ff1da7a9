import DebugWire.Proofs.Session.Faithful

/-!
# Proofs/Session/Listing — lists of types, members, threads and tables, to the last byte

Eight commands tell a list or a table of the target: the types, the types with a signature, the
threads, the groups, the fields and the methods of a type, the lines and the variables of a method.
Each reply is read to its last byte as what the target has, in the order in which the target has it
(`Backend.listings_of_listable`).  An item is a head, which is an id or has one, and plain facts
behind it (`Read.row`); the id stands for the entity by the table right after the reply.
-/

namespace DebugWire

open Registry

variable {α β γ : Type}

/-! ## Rows -/

namespace Read

/-- One thing, then another. -/
def row (x : Read α) (y : Read β) : Read (α × β) := do
  let a ← x
  let b ← y
  return (a, b)

/-- A head is read, and then what stands behind it. -/
theorem reads_row {x : Read α} {y : Read β} {bs bs' : Bytes} {a : α} {b : β} (hx : Reads x bs a)
    (hy : Reads y bs' b) : Reads (row x y) (bs ++ bs') (a, b) :=
  hx.bind (hy.last rfl)

/-- The facts of a member: its name, its signature and its modifiers. -/
def memberFacts : Read (String × String × Int32) := row string (row string int32)

/-- The lines of a method. -/
def lineTable : Read LineTable := do
  let start ← int64
  let stop ← int64
  let lines ← list (row uint64 int32)
  return ⟨start, stop, lines⟩

/-- A local variable of a method. -/
def variableSlot : Read VariableSlot := do
  let codeIndex ← uint64
  let name ← string
  let signature ← string
  let length ← uint32
  let slot ← int32
  return ⟨codeIndex, name, signature, length, slot⟩

/-- The local variables of a method. -/
def variableTable : Read VariableTable := do
  let argumentCount ← int32
  let slots ← list variableSlot
  return ⟨argumentCount, slots⟩

/-- Items that are written each in its own way, behind their number. -/
theorem reads_list_map {x : Read α} {write : α → Bytes} {as : List α} (hmany : as.length < 2 ^ 31)
    (h : ∀ a ∈ as, Reads x (write a) a) :
    Reads (list x) (Bytes.ofCount as.length ++ (as.map write).flatten) as := by
  have hfew : (as.map write).length < 2 ^ 31 := List.length_map write ▸ hmany
  have hread := reads_list hfew (List.forall₂_map_left_iff.mpr (List.forall₂_same.mpr h))
  rwa [List.length_map] at hread

end Read

/-- The text can be written: its length fits the field in front. -/
def FitsText (s : String) : Prop := (Utf8.encode s).length < 2 ^ 32

instance (s : String) : Decidable (FitsText s) := inferInstanceAs (Decidable (_ < _))

/-- The texts of a member can be written. -/
def MemberFacts.Fits (f : MemberFacts) : Prop := FitsText f.name ∧ FitsText f.signature

instance (f : MemberFacts) : Decidable f.Fits := inferInstanceAs (Decidable (_ ∧ _))

/-- The texts of a variable can be written. -/
def VariableSlot.Fits (v : VariableSlot) : Prop := FitsText v.name ∧ FitsText v.signature

instance (v : VariableSlot) : Decidable v.Fits := inferInstanceAs (Decidable (_ ∧ _))

theorem VariableSlot.Fits.reads {v : VariableSlot} (h : v.Fits) :
    Reads Read.variableSlot (Bytes.ofUInt64 v.codeIndex ++ Bytes.ofString v.name ++
      Bytes.ofString v.signature ++ Bytes.ofUInt32 v.length ++ Bytes.ofInt32 v.slot) v := by
  simp only [List.append_assoc]
  refine (Read.reads_uint64 _).bind ((Read.reads_string h.1).bind ?_)
  exact (Read.reads_string h.2).bind ((Read.reads_uint32 _).bind ((Read.reads_int32 _).last rfl))

theorem LineTable.reads {table : LineTable} (hfew : table.lines.length < 2 ^ 31) :
    Reads Read.lineTable (Bytes.ofInt64 table.start ++ Bytes.ofInt64 table.stop ++
      Bytes.ofCount table.lines.length ++ (table.lines.map fun (index, line) =>
        Bytes.ofUInt64 index ++ Bytes.ofInt32 line).flatten) table := by
  have hlines := Read.reads_list_map hfew fun (row : UInt64 × Int32) _ =>
    Read.reads_row (Read.reads_uint64 row.1) (Read.reads_int32 row.2)
  rw [List.append_assoc, List.append_assoc]
  exact (Read.reads_int64 _).bind ((Read.reads_int64 _).bind (hlines.last rfl))

theorem VariableTable.reads {table : VariableTable} (hfew : table.slots.length < 2 ^ 31)
    (hfits : ∀ v ∈ table.slots, v.Fits) :
    Reads Read.variableTable (Bytes.ofInt32 table.argumentCount ++
      Bytes.ofCount table.slots.length ++ (table.slots.map fun v =>
        Bytes.ofUInt64 v.codeIndex ++ Bytes.ofString v.name ++ Bytes.ofString v.signature ++
          Bytes.ofUInt32 v.length ++ Bytes.ofInt32 v.slot).flatten) table := by
  have hslots := Read.reads_list_map hfew fun v hv => (hfits v hv).reads
  rw [List.append_assoc]
  exact (Read.reads_int32 _).bind (hslots.last rfl)

/-! ## What a row tells -/

/-- The table gives the type back, with the tag that is told, and the facts are those of the
target. -/
def SaysType (t : InMemory) (facts : TypeFacts → β) (r : Registry) (type : Handle)
    (row : TypeRef × β) : Prop :=
  r.resolveType row.1.id = .ok (type, row.1.tag) ∧
    ∃ l ∈ t.types[type]?, row.2 = facts l.facts

/-- The table gives the member back, and the facts are those of the target. -/
def SaysMember (kind : EntityKind) (find : Handle → Option MemberFacts) (r : Registry)
    (member : Handle) (row : WireId × String × String × Int32) : Prop :=
  r.resolve row.1 kind = .ok member ∧
    ∃ f ∈ find member, row.2 = (f.name, f.signature, f.modifiers)

/-- What a row says of a type outlasts whatever the table learns. -/
theorem lasting_saysType (t : InMemory) (facts : TypeFacts → β) (type : Handle)
    (row : TypeRef × β) : Lasting (SaysType t facts · type row) :=
  fun _ _ hs h => ⟨hs.resolveType h.1, h.2⟩

theorem lasting_saysMember (kind : EntityKind) (find : Handle → Option MemberFacts)
    (member : Handle) (row : WireId × String × String × Int32) :
    Lasting (SaysMember kind find · member row) := fun _ _ hs h => ⟨hs.resolve h.1, h.2⟩

namespace Writing

variable {kinds : Handle → ObjectKind}

/-- Write a type, and some of its facts. -/
def typeRow (t : InMemory) (plain : TypeFacts → Bytes) (type : Handle) : StateM Registry Body := do
  match t.types[type]? with
  | some l =>
    let ref ← modifyGet (·.registerTagged type l.facts.typeTag)
    return .ofTypeRef type ref ++ .plain (plain l.facts)
  | none => return []

/-- Write a member, and its facts. -/
def memberRow (kind : EntityKind) (find : Handle → Option MemberFacts) (member : Handle) :
    StateM Registry Body := do
  match find member with
  | some f =>
    let id ← Body.ofEntity member <$> modifyGet (·.register member kind)
    return id ++
      .plain (Bytes.ofString f.name ++ Bytes.ofString f.signature ++ Bytes.ofInt32 f.modifiers)
  | none => return []

/-- **A row of a type is read as what the target has of that type.** -/
theorem tells_typeRow {t : InMemory} {plain : TypeFacts → Bytes} {facts : TypeFacts → β}
    {x : Read β} {type : Handle} {l : LoadedType} (hl : t.types[type]? = some l)
    (hx : Reads x (plain l.facts) (facts l.facts)) :
    Tells kinds (typeRow t plain type)
      (Spells (Read.row Read.typeRef x) fun s row => SaysType t facts s type row) := by
  unfold typeRow
  rw [hl]
  refine (tells_registerTagged type l.facts.typeTag).bind (fun _ _ _ hs h => hs.resolveType h)
    fun ref => .pure fun s htype => ?_
  refine ⟨(ref, facts l.facts), ?_, htype, l, hl, rfl⟩
  rw [Body.bytes_append, Body.bytes_ofTypeRef, Body.bytes_plain]
  exact Read.reads_row (Read.reads_typeRef ref) hx

/-- And a row of a member, if its texts fit their length fields. -/
theorem tells_memberRow {kind : EntityKind} {find : Handle → Option MemberFacts} {member : Handle}
    {f : MemberFacts} (hkind : kind.Suits kinds member) (hf : find member = some f)
    (hfits : f.Fits) :
    Tells kinds (memberRow kind find member)
      (Spells (Read.row Read.wireId Read.memberFacts) fun s row =>
        SaysMember kind find s member row) := by
  unfold memberRow
  rw [hf]
  refine (tells_idOf hkind).bind (Spells.lasting fun _ _ _ hs h => hs.resolve h) fun id =>
    .pure fun s hid => ?_
  obtain ⟨w, hreads, hw⟩ := hid
  refine ⟨(w, f.name, f.signature, f.modifiers), ?_, hw, f, hf, rfl⟩
  rw [Body.bytes_append, Body.bytes_plain, List.append_assoc]
  exact Read.reads_row hreads (Read.reads_row (Read.reads_string hfits.1)
    (Read.reads_row (Read.reads_string hfits.2) (Read.reads_int32 _)))

end Writing

/-! ## What can be listed -/

namespace InMemory

/-- The groups that are in no other. -/
def topLevel (t : InMemory) : List Handle :=
  t.groupOrder.filter fun g => (t.groups[g]?).any (·.parent.isNone)

/-- The loaded types with a signature. -/
def signed (t : InMemory) (signature : String) : List Handle :=
  t.loadOrder.filter fun type => (t.types[type]?).any (·.facts.signature = signature)

/-- Whatever the target lists is known to it, and can be told: no list has 2³¹ items, and no text
2³² bytes. -/
structure Listable (t : InMemory) : Prop where
  working : t.Working
  fewTypes : t.loadOrder.length < 2 ^ 31
  types : ∀ type ∈ t.loadOrder, ∃ l ∈ t.types[type]?, FitsText l.facts.signature
  fewThreads : t.threadOrder.length < 2 ^ 31
  fewGroups : t.topLevel.length < 2 ^ 31
  fields : ∀ type : Handle, ∀ l ∈ t.types[type]?, l.fields.length < 2 ^ 31 ∧
    ∀ field ∈ l.fields, ∃ f ∈ t.fields[field]?, f.Fits
  methods : ∀ type : Handle, ∀ l ∈ t.types[type]?, l.methods.length < 2 ^ 31 ∧
    ∀ method ∈ l.methods, ∃ m ∈ t.methods[method]?, m.facts.Fits
  lines : ∀ method : Handle, ∀ m ∈ t.methods[method]?, ∀ table ∈ m.lines,
    table.lines.length < 2 ^ 31
  locals : ∀ method : Handle, ∀ m ∈ t.methods[method]?, ∀ table ∈ m.locals,
    table.slots.length < 2 ^ 31 ∧ ∀ v ∈ table.slots, v.Fits

end InMemory

namespace Backend

/-- The bytes are the id of a loaded type. -/
def NamesType (b : Backend InMemory) (bs : Bytes) (l : LoadedType) : Prop :=
  ∃ id type tag, bs = Bytes.ofWireId id ∧ b.registry.resolveType id = .ok (type, tag) ∧
    b.target.types[type]? = some l

/-- The bytes are the ids of a type and of a method that it declares. -/
def NamesMethod (b : Backend InMemory) (bs : Bytes) (method : Handle) (m : LoadedMethod) : Prop :=
  ∃ typeId id type tag, bs = Bytes.ofWireId typeId ++ Bytes.ofWireId id ∧
    b.registry.resolveType typeId = .ok (type, tag) ∧
    b.registry.resolve id .method = .ok method ∧ b.target.methods[method]? = some m ∧
    m.facts.declaringType = type

/-! ## What is asked for -/

section

variable {b : Backend InMemory} {c : Command} (ht : b.target.Working)

include ht

/-- All of a kind are asked for, with no payload. -/
theorem asks_all {x : TargetCall InMemory α} {all : α} (hx : x.run b.target = (.ok all, b.target))
    {reply : α → Action InMemory Body} (hanswer : c.answer = Action.call x >>= reply) :
    b.Asks c (fun bs a => bs = [] ∧ a = all) reply where
  alive := ht.isAlive
  front := by
    have hkeeps : Attempt.Keeps (· = b.target) TargetError.Coded x := by
      rintro _ rfl
      rw [hx]
      exact ⟨rfl, nofun⟩
    refine ⟨_, hanswer, (Parses.call hkeeps).congr fun bs a => ?_, Action.keeps_call_coded hkeeps⟩
    rw [hx, Except.ok.injEq, eq_comm (a := all)]

/-- Something of a type is asked for, by the id of the type. -/
theorem asks_ofType {x : Handle → TargetCall InMemory α} {find : LoadedType → α}
    (hx : ∀ type, x type = InMemory.lookUp .invalidClass fun t => t.types[type]?.map find)
    {reply : α → Action InMemory Body}
    (hanswer : c.answer = Action.type >>= fun type => Action.call (x type) >>= reply) :
    b.Asks c (fun bs a => ∃ l, b.NamesType bs l ∧ a = find l) reply where
  alive := ht.isAlive
  front := by
    have hkeeps : ∀ type, Attempt.Keeps (· = b.target) TargetError.Coded (x type) := fun type =>
      hx type ▸ ht.keeps_lookUp .invalidClass nofun _
    refine ⟨Action.type >>= fun type => Action.call (x type), by rw [hanswer, bind_assoc], ?_,
      Action.keeps_type_coded.bind fun type => Action.keeps_call_coded (hkeeps type)⟩
    refine (Parses.type.last fun type => Parses.call (hkeeps type)).congr fun bs a => ?_
    simp only [hx, ht.run_lookUp_eq_ok_iff, Option.map_eq_some_iff]
    constructor
    · rintro ⟨type, ⟨id, tag, rfl, hid⟩, l, hl, rfl⟩
      exact ⟨l, ⟨id, type, tag, rfl, hid, hl⟩, rfl⟩
    · rintro ⟨l, ⟨id, type, tag, rfl, hid, hl⟩, rfl⟩
      exact ⟨type, ⟨id, tag, rfl, hid⟩, l, hl, rfl⟩

omit ht in
theorem method_eq : (Answer.method : Action InMemory Handle) = Action.type >>= fun type =>
    Action.read Read.wireId >>= fun id => Action.lookUp (·.resolve id .method) >>= fun method =>
      Action.call (Target.methodFacts method) >>= fun facts =>
        if facts.declaringType ≠ type then throw (.invalidId .method id) else pure method := rfl

/-- A method is read with the type that declares it. -/
theorem parses_method : Parses (Call.mk b) (Answer.method : Action InMemory Handle)
    fun bs method => ∃ m, b.NamesMethod bs method m := by
  have hfacts (method : Handle) : Parses (Call.mk b)
      (Action.call (Target.methodFacts method : TargetCall InMemory MemberFacts))
      fun bs facts => bs = [] ∧ ∃ m, b.target.methods[method]? = some m ∧ m.facts = facts := by
    refine (Parses.call (ht.keeps_lookUp .invalidMethodId nofun _)).congr fun bs a => ?_
    rw [ht.run_lookUp_eq_ok_iff, Option.map_eq_some_iff]
  rw [method_eq]
  refine (Parses.type.bind fun type => (Parses.read Read.parses_wireId).bind fun id =>
    (Parses.lookUp _).bind fun method => (hfacts method).bind fun facts =>
      Parses.refusing _ _).congr fun bs method => ?_
  constructor
  · rintro ⟨_, _, type, ⟨typeId, tag, rfl, htype⟩, ⟨_, _, id, rfl, ⟨_, _, method', ⟨rfl, hmethod⟩,
      ⟨_, _, facts, ⟨rfl, m, hm, rfl⟩, ⟨rfl, hdeclares, rfl⟩, rfl⟩, rfl⟩, rfl⟩, rfl⟩
    exact ⟨m, typeId, id, type, tag, by simp, htype, hmethod, hm, not_not.mp hdeclares⟩
  · rintro ⟨m, typeId, id, type, tag, rfl, htype, hmethod, hm, hdeclares⟩
    exact ⟨_, _, type, ⟨typeId, tag, rfl, htype⟩, ⟨_, _, id, rfl, ⟨_, _, method, ⟨rfl, hmethod⟩,
      ⟨_, _, _, ⟨rfl, m, hm, rfl⟩, ⟨rfl, not_not.mpr hdeclares, rfl⟩, rfl⟩, rfl⟩, rfl⟩, by simp⟩

/-- A method that is not to be found is refused with a code, and the target stays. -/
theorem keeps_method : Action.Keeps (HasTarget b.target) CommandError.Coded
    (Answer.method : Action InMemory Handle) := by
  refine Action.keeps_type_coded.bind fun type => ?_
  refine (Action.keeps_read (fun _ h => h.coded) _).bind fun id => ?_
  refine (Action.keeps_lookUp_coded fun _ _ => Registry.blames_of_resolve).bind fun method => ?_
  refine (Action.keeps_call_coded (ht.keeps_lookUp .invalidMethodId nofun _)).bind ?_
  exact fun facts => .guard (CommandError.Blames.invalidId _ _).coded (.pure _)

/-- The debug information of a method is asked for, by the ids of its type and of itself. -/
theorem asks_ofMethod {info : LoadedMethod → Option α} {write : α → Bytes}
    (hanswer : c.answer = Body.plain <$> (Answer.method >>= fun method =>
      Action.call (InMemory.debugInfo method info) >>= fun a => pure (write a))) :
    b.Asks c (fun bs a => ∃ method m, b.NamesMethod bs method m ∧ info m = some a)
      fun a => pure (Body.plain (write a)) where
  alive := ht.isAlive
  front := by
    have hkeeps : ∀ method,
        Attempt.Keeps (· = b.target) TargetError.Coded (InMemory.debugInfo method info) :=
      fun method => ht.keeps_debugInfo method info
    refine ⟨Answer.method >>= fun method => Action.call (InMemory.debugInfo method info),
      by simp only [hanswer, map_bind, map_pure, bind_assoc], ?_,
      (keeps_method ht).bind fun method => Action.keeps_call_coded (hkeeps method)⟩
    refine ((parses_method ht).last fun method => Parses.call (hkeeps method)).congr fun bs a => ?_
    simp only [ht.run_debugInfo_eq_ok_iff]
    constructor
    · rintro ⟨method, ⟨m, hnames⟩, m', hm', hinfo⟩
      obtain ⟨typeId, id, type, tag, rfl, htype, hmethod, hm, hdeclares⟩ := hnames
      obtain rfl : m = m' := Option.some.inj (hm.symm.trans hm')
      exact ⟨method, m, ⟨typeId, id, type, tag, rfl, htype, hmethod, hm, hdeclares⟩, hinfo⟩
    · rintro ⟨method, m, hnames, hinfo⟩
      obtain ⟨-, -, -, -, -, -, -, hm, -⟩ := id hnames
      exact ⟨method, ⟨m, hnames⟩, m, hm, hinfo⟩

/-- A text is asked for. -/
theorem asks_text {reply : String → Action InMemory Body}
    (hanswer : c.answer = Action.read Read.string >>= reply) :
    b.Asks c (fun bs s => FitsText s ∧ bs = Bytes.ofString s) reply where
  alive := ht.isAlive
  front := ⟨_, hanswer, Parses.read Read.parses_string,
    Action.keeps_read (fun _ h => h.coded) Read.string⟩

end

/-! ## What is told -/

theorem does_typeRow {t : InMemory} (plain : TypeFacts → Bytes) {type : Handle} {l : LoadedType}
    (hl : t.types[type]? = some l) :
    Action.Does t (do
      let ref ← Action.registry (·.registerTagged type l.facts.typeTag)
      return .ofTypeRef type ref ++ .plain (plain l.facts)) (Writing.typeRow t plain type) := by
  unfold Writing.typeRow
  rw [hl]
  exact (Action.Does.registry _).bind fun _ => .pure _

/-- The loaded types are asked for their facts. -/
theorem does_withFacts {t : InMemory} (ht : t.Working) {types : List Handle}
    (hknown : ∀ type ∈ types, ∃ l, t.types[type]? = some l) :
    ∃ classes, (∀ c : Call InMemory, c.backend.target = t →
        (types.mapM Answer.withFacts).run c = (.ok classes, c)) ∧
      List.Forall₂ (fun p type => ∃ l, t.types[type]? = some l ∧ p = (type, l.facts))
        classes types := by
  induction types with
  | nil => exact ⟨[], fun _ _ => rfl, .nil⟩
  | cons type types ih =>
    obtain ⟨⟨l, hl⟩, hrest⟩ := List.forall_mem_cons.mp hknown
    obtain ⟨classes, hclasses, hfound⟩ := ih hrest
    refine ⟨(type, l.facts) :: classes, fun c hc => ?_, .cons ⟨l, hl, rfl⟩ hfound⟩
    have hfacts : (Answer.withFacts type).run c = (.ok (type, l.facts), c) := by
      subst hc
      rw [Answer.withFacts, Attempt.run_bind_of_ok (Action.run_call (ht.run_typeFacts hl))]
      rfl
    rw [List.mapM_cons, Attempt.run_bind_of_ok hfacts, Attempt.run_bind_of_ok (hclasses c hc)]
    rfl

theorem does_memberRow {t : InMemory} {kind : EntityKind}
    {facts : Handle → TargetCall InMemory MemberFacts} {find : Handle → Option MemberFacts}
    {member : Handle} {f : MemberFacts} (hf : find member = some f)
    (hrun : (facts member).run t = (.ok f, t)) :
    Action.Does t (Answer.member kind facts member) (Writing.memberRow kind find member) := by
  unfold Answer.member Writing.memberRow
  rw [hf]
  exact .call_bind hrun ((Action.Does.idOf member kind).bind fun _ => .pure _)

section

variable {b : Backend InMemory} (hb : b.registry.Reachable) (ht : b.target.Listable)

include hb ht

/-- Every type that is loaded, in the order of loading. -/
theorem faithful_allClasses :
    b.Faithful .allClasses (fun bs types => bs = [] ∧ types = b.target.loadOrder)
      (Read.list (Read.row Read.typeRef (Read.row Read.string Read.int32)))
      fun r => List.Forall₂ (SaysType b.target (fun f => (f.signature, f.status)) r) := by
  have hrun : (Target.allClasses : TargetCall InMemory (List Handle)).run b.target =
      (.ok b.target.loadOrder, b.target) := ht.working.run_guarded _
  refine (asks_all ht.working hrun rfl).faithful_declared hb (lasting_saysType _ _) id
    (Writing.typeRow b.target fun f => Bytes.ofString f.signature ++ Bytes.ofInt32 f.status) ?_ ?_
  · rintro _ _ ⟨rfl, rfl⟩
    refine ⟨ht.fewTypes, .list fun type htype => ?_⟩
    obtain ⟨l, hl, -⟩ := ht.types type htype
    exact .call_bind (ht.working.run_typeFacts hl)
      (does_typeRow (fun f => Bytes.ofString f.signature ++ Bytes.ofInt32 f.status) hl)
  · rintro _ _ ⟨rfl, rfl⟩ kinds type htype
    obtain ⟨l, hl, hfits⟩ := ht.types type htype
    exact Writing.tells_typeRow hl (Read.reads_row (Read.reads_string hfits) (Read.reads_int32 _))

/-- Only the types of this signature, in the same order; there may be none. -/
theorem faithful_classesBySignature :
    b.Faithful .classesBySignature (fun bs s => FitsText s ∧ bs = Bytes.ofString s)
      (Read.list (Read.row Read.typeRef Read.int32))
      fun r s => List.Forall₂ (SaysType b.target (·.status) r) (b.target.signed s) := by
  have hrun : (Target.allClasses : TargetCall InMemory (List Handle)).run b.target =
      (.ok b.target.loadOrder, b.target) := ht.working.run_guarded _
  obtain ⟨classes, hclasses, hfound⟩ := does_withFacts ht.working fun type htype =>
    (ht.types type htype).imp fun l hl => hl.1
  refine (asks_text ht.working rfl).faithful_declared hb (lasting_saysType _ _) b.target.signed
    (Writing.typeRow b.target (Bytes.ofInt32 ·.status)) ?_ ?_
  · rintro _ s -
    refine ⟨Nat.lt_of_le_of_lt (List.length_filter_le _ _) ht.fewTypes,
      .call_bind hrun fun c hc => ?_⟩
    rw [Attempt.run_bind_of_ok (hclasses c hc)]
    refine Action.Does.list_of_rel ?_ c hc
    refine (List.rel_filter ?_ hfound).imp ?_
    · rintro _ type ⟨l, hl, rfl⟩
      simp only [hl, Option.any_some]
    · rintro _ type ⟨l, hl, rfl⟩
      exact does_typeRow (Bytes.ofInt32 ·.status) hl
  · rintro _ s - kinds type htype
    obtain ⟨l, hl, hfits⟩ := ht.types type (List.mem_of_mem_filter htype)
    exact Writing.tells_typeRow hl (Read.reads_int32 _)

/-- The fields that the type declares itself. -/
theorem faithful_fields :
    b.Faithful .fields (fun bs fields => ∃ l, b.NamesType bs l ∧ fields = l.fields)
      (Read.list (Read.row Read.wireId Read.memberFacts))
      fun r => List.Forall₂ (SaysMember .field (b.target.fields[·]?) r) := by
  refine (asks_ofType ht.working (fun _ => rfl) rfl).faithful_declared hb
    (lasting_saysMember _ _) id (Writing.memberRow .field (b.target.fields[·]?)) ?_ ?_
  · rintro _ _ ⟨l, ⟨id, type, tag, -, -, hl⟩, rfl⟩
    obtain ⟨hfew, hmembers⟩ := ht.fields type l hl
    refine ⟨hfew, .list fun field hfield => ?_⟩
    obtain ⟨f, hf, -⟩ := hmembers field hfield
    exact does_memberRow hf (ht.working.run_lookUp_of_find hf)
  · rintro _ _ ⟨l, ⟨id, type, tag, -, -, hl⟩, rfl⟩ kinds field hfield
    obtain ⟨f, hf, hfits⟩ := (ht.fields type l hl).2 field hfield
    exact Writing.tells_memberRow (.of_not_object Bool.false_ne_true) hf hfits

theorem faithful_methods :
    b.Faithful .methods (fun bs methods => ∃ l, b.NamesType bs l ∧ methods = l.methods)
      (Read.list (Read.row Read.wireId Read.memberFacts))
      fun r => List.Forall₂ (SaysMember .method (b.target.methods[·]?.map (·.facts)) r) := by
  refine (asks_ofType ht.working (fun _ => rfl) rfl).faithful_declared hb
    (lasting_saysMember _ _) id
    (Writing.memberRow .method (b.target.methods[·]?.map (·.facts))) ?_ ?_
  · rintro _ _ ⟨l, ⟨id, type, tag, -, -, hl⟩, rfl⟩
    obtain ⟨hfew, hmembers⟩ := ht.methods type l hl
    refine ⟨hfew, .list fun method hmethod => ?_⟩
    obtain ⟨m, hm, -⟩ := hmembers method hmethod
    exact does_memberRow (Option.map_eq_some_iff.mpr ⟨m, hm, rfl⟩) (ht.working.run_methodFacts hm)
  · rintro _ _ ⟨l, ⟨id, type, tag, -, -, hl⟩, rfl⟩ kinds method hmethod
    obtain ⟨m, hm, hfits⟩ := (ht.methods type l hl).2 method hmethod
    exact Writing.tells_memberRow (.of_not_object Bool.false_ne_true)
      (Option.map_eq_some_iff.mpr ⟨m, hm, rfl⟩) hfits

/-- Objects of one kind, each told by its id. -/
theorem faithful_objects {c : Command} {x : TargetCall InMemory (List Handle)}
    {all : List Handle} (kind : ObjectKind) (hx : x.run b.target = (.ok all, b.target))
    (hanswer : c.answer = Action.call x >>= (Action.list · (Action.idOf · (.object kind))))
    (hfew : all.length < 2 ^ 31)
    (hknown : ∀ handle ∈ all, b.registry.KnownAs kind handle) :
    b.Faithful c (fun bs objects => bs = [] ∧ objects = all) (Read.list Read.wireId)
      fun r => List.Forall₂ fun handle id => r.resolve id (.object kind) = .ok handle := by
  refine (asks_all ht.working hx hanswer).faithful_list hb (fun _ => kind)
    (S := (· ∈ all)) hknown (R := fun r handle id => r.resolve id (.object kind) = .ok handle)
    (fun _ _ _ _ hs h => hs.resolve h) id
    (fun handle => Body.ofEntity handle <$> modifyGet (·.register handle (.object kind))) ?_ ?_
  · rintro _ _ ⟨rfl, rfl⟩
    exact ⟨hfew, .list fun handle _ => .idOf handle _⟩
  · rintro _ _ ⟨rfl, rfl⟩ kinds hkinds handle hmem
    refine Writing.tells_idOf ?_
    rintro _ ⟨⟩
    exact Or.inr (hkinds handle hmem).symm

omit hb

/-- The lines of a method that has them, and no ids. -/
theorem plainly_lineTable :
    b.Plainly .lineTable (fun bs table => ∃ method m, b.NamesMethod bs method m ∧
      m.lines = some table) Read.lineTable := by
  refine (asks_ofMethod ht.working rfl).plainly ?_
  rintro _ table ⟨method, m, ⟨_, _, _, _, -, -, -, hm, -⟩, htable⟩
  refine ⟨_, rfl, ?_⟩
  rw [Body.bytes_plain]
  exact LineTable.reads (ht.lines method m hm table htable)

/-- The variables of a method that has them. -/
theorem plainly_variableTable :
    b.Plainly .variableTable (fun bs table => ∃ method m, b.NamesMethod bs method m ∧
      m.locals = some table) Read.variableTable := by
  refine (asks_ofMethod ht.working rfl).plainly ?_
  rintro _ table ⟨method, m, ⟨_, _, _, _, -, -, -, hm, -⟩, htable⟩
  obtain ⟨hfew, hfits⟩ := ht.locals method m hm table htable
  refine ⟨_, rfl, ?_⟩
  rw [Body.bytes_plain]
  exact VariableTable.reads hfew hfits

end

/-- What a debugger is told in lists. -/
structure Listings (b : Backend InMemory) : Prop where
  /-- The loaded types, with their signatures and statuses. -/
  allClasses : b.Faithful .allClasses (fun bs types => bs = [] ∧ types = b.target.loadOrder)
    (Read.list (Read.row Read.typeRef (Read.row Read.string Read.int32)))
    fun r => List.Forall₂ (SaysType b.target (fun f => (f.signature, f.status)) r)
  /-- The loaded types with a signature, with their statuses. -/
  classesBySignature : b.Faithful .classesBySignature
    (fun bs s => FitsText s ∧ bs = Bytes.ofString s)
    (Read.list (Read.row Read.typeRef Read.int32))
    fun r s => List.Forall₂ (SaysType b.target (·.status) r) (b.target.signed s)
  /-- The threads. -/
  allThreads : b.Faithful .allThreads
    (fun bs threads => bs = [] ∧ threads = b.target.threadOrder) (Read.list Read.wireId)
    fun r => List.Forall₂ fun thread id => r.resolve id (.object .thread) = .ok thread
  /-- The groups that are in no other. -/
  topLevelGroups : b.Faithful .topLevelGroups
    (fun bs groups => bs = [] ∧ groups = b.target.topLevel) (Read.list Read.wireId)
    fun r => List.Forall₂ fun group id => r.resolve id (.object .threadGroup) = .ok group
  /-- The fields of a type, with their names, signatures and modifiers. -/
  fields : b.Faithful .fields (fun bs fields => ∃ l, b.NamesType bs l ∧ fields = l.fields)
    (Read.list (Read.row Read.wireId Read.memberFacts))
    fun r => List.Forall₂ (SaysMember .field (b.target.fields[·]?) r)
  /-- The methods of a type, with theirs. -/
  methods : b.Faithful .methods (fun bs methods => ∃ l, b.NamesType bs l ∧ methods = l.methods)
    (Read.list (Read.row Read.wireId Read.memberFacts))
    fun r => List.Forall₂ (SaysMember .method (b.target.methods[·]?.map (·.facts)) r)
  /-- The lines of a method. -/
  lineTable : b.Plainly .lineTable
    (fun bs table => ∃ method m, b.NamesMethod bs method m ∧ m.lines = some table) Read.lineTable
  /-- The variables of a method. -/
  variableTable : b.Plainly .variableTable
    (fun bs table => ∃ method m, b.NamesMethod bs method m ∧ m.locals = some table)
    Read.variableTable

/-- **Lists are faithful**, on any table that came of calls, if what is listed is known to the
target, and what the table says of a listed thread or group is what it is. -/
theorem listings_of_listable {b : Backend InMemory} (hb : b.registry.Reachable)
    (ht : b.target.Listable)
    (hthreads : ∀ thread ∈ b.target.threadOrder, b.registry.KnownAs .thread thread)
    (hgroups : ∀ group ∈ b.target.topLevel, b.registry.KnownAs .threadGroup group) :
    b.Listings where
  allClasses := faithful_allClasses hb ht
  classesBySignature := faithful_classesBySignature hb ht
  allThreads := faithful_objects (x := Target.allThreads) hb ht .thread
    (ht.working.run_guarded _) rfl ht.fewThreads hthreads
  topLevelGroups := faithful_objects (x := Target.topLevelGroups) hb ht .threadGroup
    (ht.working.run_guarded _) rfl ht.fewGroups hgroups
  fields := faithful_fields hb ht
  methods := faithful_methods hb ht
  lineTable := plainly_lineTable ht
  variableTable := plainly_variableTable ht

/-- What is said of every value of a map can be said of its list. -/
theorem forall_values_iff {β : Type} {m : Std.TreeMap Handle β} {P : β → Prop} :
    (∀ handle : Handle, ∀ v ∈ m[handle]?, P v) ↔ ∀ p ∈ m.toList, P p.2 := by
  constructor
  · rintro h ⟨handle, v⟩ hmem
    exact h handle v (Std.TreeMap.mem_toList_iff_getElem?_eq_some.mp hmem)
  · intro h handle v hv
    exact h (handle, v) (Std.TreeMap.mem_toList_iff_getElem?_eq_some.mpr hv)

open InMemory in
/-- A class with a field and a method, an interface, and two groups, one in the other. -/
def library : InMemory :=
  let build : StateM InMemory Unit := do
    let main ← addClass "LMain;"
    let _ ← addInterface "LStep;"
    let _ ← addField main "size" "I"
    let run ← addMethod main "run" "()V"
    modify (setLineTable run ⟨0, 9, [(0, 3), (4, 5)]⟩)
    modify (setVariableTable run ⟨1, [⟨0, "this", "LMain;", 10, 0⟩]⟩)
    let group ← addThreadGroup "all" none
    let _ ← addThreadGroup "inner" (some group)
    let _ ← addThread "first" group
  (build.run InMemory.new).2

/-- A debugger learns the id 1 of the thread, the ids of the types, and the id 5 of the method of
the type with the id 2. -/
def browse : List (Happening InMemory) :=
  [.connected, .command Command.all 1 4 [], .command Command.all 1 3 [],
    .command Command.all 2 5 (Bytes.ofWireId ⟨2⟩)]

/-- The interface keeps its id 3, and the method has two lines. -/
theorem listings_of_library : ∃ b, Backend.new {} library = .ok b ∧
    ((b.after browse).ask .classesBySignature (Bytes.ofString "LStep;")).1 =
      .ok (.ok [0, 0, 0, 1, 2, 0, 0, 0, 0, 0, 0, 0, 3, 0, 0, 0, 7]) ∧
    ((b.after browse).ask .lineTable (Bytes.ofWireId ⟨2⟩ ++ Bytes.ofWireId ⟨5⟩)).1 =
      .ok (.ok (Bytes.ofInt64 0 ++ Bytes.ofInt64 9 ++ Bytes.ofCount 2 ++
        (Bytes.ofUInt64 0 ++ Bytes.ofInt32 3) ++ (Bytes.ofUInt64 4 ++ Bytes.ofInt32 5))) ∧
    (b.after browse).Listings := by
  have hnew : Backend.new {} library = .ok _ := rfl
  refine ⟨_, hnew, by decide +kernel, by decide +kernel, ?_⟩
  refine listings_of_listable (reachable_of_new hnew browse) ?_ (by decide +kernel)
    (by decide +kernel)
  exact {
    working := ⟨by decide +kernel, by decide +kernel⟩
    fewTypes := by decide +kernel
    types := by decide +kernel
    fewThreads := by decide +kernel
    fewGroups := by decide +kernel
    fields := forall_values_iff.mpr (by decide +kernel)
    methods := forall_values_iff.mpr (by decide +kernel)
    lines := forall_values_iff.mpr (by decide +kernel)
    locals := forall_values_iff.mpr (by decide +kernel) }

end Backend
end DebugWire

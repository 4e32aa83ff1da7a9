import DebugWire.Proofs.Bytes.Parsing
import DebugWire.Proofs.Registry.ReadBack

/-!
# Proofs/Registry/Position — positions that come back later

Types and their members are not counted and never pinned (`PinsObjects`), so their ids end in three
ways only: they are given back, their entity is gone, or all ids end (`Operation.ends`).  A position
names a type and a method.  It is accepted if both ids stand for something (`parses_readPosition`),
so it is read for as long as neither has ended (`WellFormed.readPosition_run_iff`).
-/

namespace DebugWire

/-! ## Ids and positions that are read -/

theorem TypeTag.number_of_ofNumber? {n : UInt8} {tag : TypeTag} (h : ofNumber? n = some tag) :
    tag.number = n := by
  unfold ofNumber? at h
  exact eq_of_beq (List.find?_some h :)

namespace Registry

variable {r s : Registry}

/-- The ids of a position stand for the type and the method that it names. -/
structure Bears (r : Registry) (place : CodePosition) : Prop where
  type : r.resolveType place.wire.declaringType = .ok (place.declaringType, place.wire.typeTag)
  method : r.resolve place.wire.method .method = .ok place.method

/-- A table that takes nothing away bears what it bore. -/
theorem Bears.extend {place : CodePosition} (h : r.Bears place) (hs : Extends r s) :
    s.Bears place :=
  ⟨hs.resolveType h.type, hs.resolve h.method⟩

/-- **A position is accepted exactly if both of its ids stand for something**, each for itself. -/
theorem placeAt_eq_ok_iff {raw : UInt8} {typeId methodId : WireId} {index : UInt64}
    {place : CodePosition} : r.placeAt raw typeId methodId index = .ok place ↔
      raw = place.wire.typeTag.number ∧ typeId = place.wire.declaringType ∧
        methodId = place.wire.method ∧ index = place.wire.index ∧ r.Bears place := by
  constructor
  · intro hr
    unfold placeAt at hr
    split at hr
    · exact absurd hr nofun
    · exact absurd hr nofun
    · next tag declaringType known htag htype =>
      split at hr
      · next hknown =>
        obtain ⟨method, hmethod, rfl⟩ := exists_of_map_eq_ok hr
        exact ⟨(TypeTag.number_of_ofNumber? htag).symm, rfl, rfl, rfl, hknown ▸ htype, hmethod⟩
      · exact absurd hr nofun
  · rintro ⟨rfl, rfl, rfl, rfl, htype, hmethod⟩
    unfold placeAt
    rw [TypeTag.ofNumber?_number, htype, hmethod]
    dsimp only
    rw [if_pos rfl]
    rfl

theorem ofPosition_eq (w : Position) : Bytes.ofPosition w =
    rawPosition w.typeTag.number w.declaringType w.method w.index := by
  rw [Bytes.ofPosition, List.append_assoc, List.append_assoc, rawPosition]

@[simp] theorem length_ofPosition (w : Position) : (Bytes.ofPosition w).length = 25 := rfl

/-- So the bytes of a position tell all of it. -/
theorem ofPosition_inj {w w' : Position} (h : Bytes.ofPosition w = Bytes.ofPosition w') : w = w' :=
  (h ▸ Read.reads_position w).unique (Read.reads_position w')

section

variable (r)

theorem parses_readEntity (kind : EntityKind) : Parses id (r.readEntity kind) fun bs handle =>
    ∃ id, bs = Bytes.ofWireId id ∧ r.resolve id kind = .ok handle :=
  (Parses.part Read.parses_wireId).last fun _ => .ofExcept _

theorem parses_readType : Parses id r.readType fun bs type =>
    ∃ id, bs = Bytes.ofWireId id ∧ r.resolveType id = .ok type :=
  (Parses.part Read.parses_wireId).last fun _ => .ofExcept _

/-- **A position is accepted if both of its ids stand for something.** -/
theorem parses_readPosition : Parses id r.readPosition fun bs place =>
    bs = Bytes.ofPosition place.wire ∧ r.Bears place := by
  rw [readPosition_eq]
  refine ((Parses.part Read.parses_uint8).bind fun raw =>
    (Parses.part Read.parses_wireId).bind fun typeId =>
      (Parses.part Read.parses_wireId).bind fun methodId =>
        (Parses.part Read.parses_uint64).last fun index => .ofExcept _).congr fun bs place => ?_
  simp only [placeAt_eq_ok_iff, ofPosition_eq, rawPosition]
  constructor
  · rintro ⟨_, _, _, rfl, ⟨_, _, _, rfl, ⟨_, _, _, rfl, ⟨_, rfl, rfl, rfl, rfl, rfl, h⟩, rfl⟩, rfl⟩,
      rfl⟩
    exact ⟨rfl, h⟩
  · rintro ⟨rfl, h⟩
    exact ⟨_, _, _, rfl, ⟨_, _, _, rfl, ⟨_, _, _, rfl, ⟨_, rfl, rfl, rfl, rfl, rfl, h⟩, rfl⟩, rfl⟩,
      rfl⟩

end

/-- Of 25 bytes and more, just the 25 decide. -/
theorem run_readPosition_eq_ok_iff {bs : Bytes} (h : bs.length = 25) {place : CodePosition}
    {p : Nat} {rest : Bytes} {d : Cursor} :
    r.readPosition.run ⟨p, bs ++ rest⟩ = (.ok place, d) ↔
      bs = Bytes.ofPosition place.wire ∧ d = ⟨p + 25, rest⟩ ∧ r.Bears place := by
  constructor
  · intro hread
    obtain ⟨taken, tail, ⟨rfl, hbears⟩, hsplit, rfl⟩ := (r.parses_readPosition p _ place d).mp hread
    obtain ⟨rfl, rfl⟩ := List.append_inj hsplit h
    exact ⟨rfl, rfl, hbears⟩
  · rintro ⟨rfl, rfl, hbears⟩
    have hrun := r.parses_readPosition.run ⟨rfl, hbears⟩ p rest
    rwa [length_ofPosition] at hrun

end Registry

open Registry

/-- The entity is a type, or a member of one. -/
def EntityKind.isDeclared : EntityKind → Bool
  | .referenceType | .field | .method => true
  | .object _ | .frame => false

/-- The call ends the id of a type or a member. -/
def Operation.ends (id : WireId) (handle : Handle) : Operation → Bool
  | .dispose i => i = id
  | .entityFreed h => h = handle
  | .disposeAll => true
  | _ => false

variable {id : WireId} {handle : Handle} {kind : EntityKind} {e x : Entry}

theorem EntityKind.not_isObject_of_isDeclared (h : kind.isDeclared) : ¬ kind.isObject := by
  rintro hobject
  cases kind <;> cases h <;> cases hobject

theorem Entry.type?_eq_some_iff {tag : TypeTag} : e.type? = some (handle, tag) ↔
    e.kind = .referenceType ∧ e.handle = handle ∧ e.typeTag = some tag := by
  simp [Entry.type?, and_left_comm]

/-! ## What the calls say -/

/-- Without pins, the id of a type or a member ends in a call that ends it, and in no other. -/
theorem Standing.next_declared (id : WireId) (handle : Handle) (hkind : kind.isDeclared)
    {s : Standing} (hpins : s.pins = 0) (call : Operation × Outcome) :
    (s.next id handle kind call).pins = 0 ∧
      ((s.next id handle kind call).ended = false ↔
        s.ended = false ∧ call.1.ends id handle = false) := by
  obtain ⟨op, answer⟩ := call
  have hobject : ¬ kind.isObject := EntityKind.not_isObject_of_isDeclared hkind
  have hframe : kind ≠ .frame := by rintro rfl; cases hkind
  cases op <;> grind [Standing.next, Standing.stop, Operation.ends]

/-- By induction on the calls: an id of what is declared ends with the first call that ends it. -/
theorem Standing.ended_foldl_iff (hkind : kind.isDeclared) {s : Standing} (hpins : s.pins = 0)
    (r : Registry) (ops : List Operation) :
    ((r.history ops).foldl (Standing.next id handle kind) s).ended = false ↔
      s.ended = false ∧ ∀ op ∈ ops, op.ends id handle = false := by
  induction ops generalizing r s with
  | nil => simp [history]
  | cons op ops ih =>
    obtain ⟨hpins', hended⟩ := next_declared id handle hkind hpins (op, (op.perform r).1)
    rw [history, List.foldl_cons, ih hpins', hended, List.forall_mem_cons, and_assoc]

namespace Registry

variable {r s : Registry} {ops : List Operation}

/-! ## Nothing but objects is pinned -/

/-- No type and no member of one is pinned. -/
def PinsObjects (r : Registry) : Prop :=
  ∀ id e, r.live? id = some e → e.kind.isDeclared → e.pins = 0

/-- The one call that pins refuses what is not an object. -/
theorem PinsObjects.perform (hpins : r.PinsObjects) (h : r.WellFormed) (op : Operation)
    (hroom : (op.perform r).2.HasRoom) : (op.perform r).2.PinsObjects := by
  intro id x hx hkind
  rw [(h.evolves_perform op hroom).live?, Option.or_eq_some_iff] at hx
  obtain hnew | ⟨-, hold⟩ := hx
  · obtain ⟨handle, kind, -, rfl⟩ :=
      exists_subject_of_newcomer? (Option.filter_eq_some_iff.mp hnew).1
    rfl
  · obtain ⟨e, he, hfate⟩ := Option.bind_eq_some_iff.mp hold
    have hspace : IdSpace.of e.kind = IdSpace.of x.kind :=
      (congrArg EntityKey.space (Operation.becomes_of_fate hfate).key).symm
    have hsame : e.kind = x.kind :=
      EntityKind.eq_of_space hspace (EntityKind.not_isObject_of_isDeclared hkind)
    have hnext := Standing.next_declared e.id e.handle (hsame ▸ hkind)
      (s := e.standing) (hpins id e he (hsame ▸ hkind)) (op, (op.perform r).1)
    have hfits := Standing.fits_next (s := e.standing) rfl ⟨rfl, fun _ => rfl, rfl, rfl⟩
      (h.answers op hroom he)
    rw [hfate] at hfits
    exact hfits.2.pins.trans hnext.1

theorem PinsObjects.run (hpins : r.PinsObjects) (h : r.WellFormed) (hroom : (r.run ops).HasRoom) :
    (r.run ops).PinsObjects := by
  induction ops generalizing r with
  | nil => exact hpins
  | cons op ops ih =>
    have hroom' := hroom.of_later (later_run ops _)
    exact ih (hpins.perform h op hroom') (h.evolves_perform op hroom').wellFormed hroom

/-- Nothing is pinned in a new table. -/
theorem pinsObjects_new (firstId : UInt64) (threshold : Nat) :
    (new firstId threshold).PinsObjects := by
  intro id e he
  simp [new, live?, tracked?] at he

/-- The table came of calls. -/
def Reachable (r : Registry) : Prop :=
  ∃ firstId threshold ops, r = (new firstId threshold).run ops

theorem Reachable.run (h : r.Reachable) (ops : List Operation) : (r.run ops).Reachable := by
  obtain ⟨firstId, threshold, before, rfl⟩ := h
  exact ⟨firstId, threshold, before ++ ops, (run_append _ _ _).symm⟩

theorem Reachable.wellFormed (h : r.Reachable) (hroom : r.HasRoom) : r.WellFormed := by
  obtain ⟨firstId, threshold, before, rfl⟩ := h
  exact (WellFormed.new firstId threshold).run before hroom

theorem Reachable.pinsObjects (h : r.Reachable) (hroom : r.HasRoom) : r.PinsObjects := by
  obtain ⟨firstId, threshold, before, rfl⟩ := h
  exact (pinsObjects_new firstId threshold).run (.new firstId threshold) hroom

/-! ## Looking up what lives on -/

/-- The id of a type or a member resolves until a call ends it. -/
theorem WellFormed.resolves_run_iff (h : r.WellFormed) (hpins : r.PinsObjects)
    (hroom : (r.run ops).HasRoom) (he : r.live? id = some e) (hkind : e.kind.isDeclared) :
    (r.run ops).Resolves id e.handle ↔ ∀ op ∈ ops, op.ends id e.handle = false := by
  have hstands : Stands id e.handle e.kind e.standing r := h.stands_of_live? he rfl
  rw [(hstands.run ops hroom).resolves_iff, Standing.ended_foldl_iff hkind (hpins id e he hkind)]
  exact and_iff_right rfl

/-- A member resolves until a call ends its id. -/
theorem WellFormed.resolve_run_declared_iff (h : r.WellFormed) (hpins : r.PinsObjects)
    (hroom : (r.run ops).HasRoom) (hkind : kind.isDeclared) (hr : r.resolve id kind = .ok handle) :
    (r.run ops).resolve id kind = .ok handle ↔ ∀ op ∈ ops, op.ends id handle = false := by
  obtain ⟨e, he, haccepts, rfl⟩ := exists_of_resolve hr
  have hsame : e.kind = kind := EntityKind.eq_of_space (EntityKind.space_of_accepts haccepts)
    (EntityKind.not_isObject_of_isDeclared hkind)
  exact (h.resolve_run_iff hroom hr).trans (h.resolves_run_iff hpins hroom he (hsame ▸ hkind))

/-- A type that resolves is alive and has a tag. -/
theorem exists_of_resolveType {type : Handle × TypeTag} (hr : r.resolveType id = .ok type) :
    ∃ e, r.live? id = some e ∧ e.type? = some type := by
  unfold Registry.resolveType at hr
  split at hr
  · next known hknown =>
    obtain rfl : known = type := Except.ok.inj hr
    exact Option.bind_eq_some_iff.mp hknown
  · exact absurd hr nofun

/-- A type is known by its tag until a call ends its id. -/
theorem WellFormed.resolveType_run_iff (h : r.WellFormed) (hpins : r.PinsObjects)
    (hroom : (r.run ops).HasRoom) {tag : TypeTag} (hr : r.resolveType id = .ok (handle, tag)) :
    (r.run ops).resolveType id = .ok (handle, tag) ↔ ∀ op ∈ ops, op.ends id handle = false := by
  obtain ⟨e, he, htype⟩ := exists_of_resolveType hr
  obtain ⟨hkind, rfl, -⟩ := Entry.type?_eq_some_iff.mp htype
  rw [← h.resolves_run_iff hpins hroom he (hkind ▸ rfl)]
  constructor
  · intro hlater
    obtain ⟨x, hx, htype'⟩ := exists_of_resolveType hlater
    obtain ⟨-, hhandle, -⟩ := Entry.type?_eq_some_iff.mp htype'
    exact hhandle ▸ resolves_of_live? hx
  · intro hlater
    obtain ⟨x, hx, -⟩ := exists_of_resolves hlater
    exact resolveType_of_live? hx ((h.serves_run hroom he hx).type? htype)

/-! ## Positions that come back -/

/-- **A position is read until a call ends the id of its type or that of its method.** -/
theorem WellFormed.bears_run_iff (h : r.WellFormed) (hpins : r.PinsObjects)
    (hroom : (r.run ops).HasRoom) {place : CodePosition} (hr : r.Bears place) :
    (r.run ops).Bears place ↔
      ∀ op ∈ ops, op.ends place.wire.declaringType place.declaringType = false ∧
        op.ends place.wire.method place.method = false := by
  have htype := h.resolveType_run_iff hpins hroom hr.type
  have hmethod := h.resolve_run_declared_iff hpins hroom rfl hr.method
  constructor
  · exact fun hlater op hop => ⟨htype.mp hlater.type op hop, hmethod.mp hlater.method op hop⟩
  · exact fun hboth => ⟨htype.mpr fun op hop => (hboth op hop).1,
      hmethod.mpr fun op hop => (hboth op hop).2⟩

/-- **A position is read as long as neither of its ids has ended.** -/
theorem WellFormed.readPosition_run_iff (h : r.WellFormed) (hpins : r.PinsObjects)
    (hroom : (r.run ops).HasRoom) {place : CodePosition} (hr : r.Bears place) (p : Nat)
    (rest : Bytes) :
    (r.run ops).readPosition.run ⟨p, Bytes.ofPosition place.wire ++ rest⟩ =
        (.ok place, ⟨p + 25, rest⟩) ↔
      ∀ op ∈ ops, op.ends place.wire.declaringType place.declaringType = false ∧
        op.ends place.wire.method place.method = false := by
  rw [run_readPosition_eq_ok_iff (length_ofPosition _), and_iff_right rfl, and_iff_right rfl]
  exact h.bears_run_iff hpins hroom hr

/-! ## Types and methods that are registered -/

/-- A type or a member resolves as what it was registered as. -/
theorem WellFormed.resolve_register (h : r.WellFormed) (hkind : kind.isDeclared)
    (hroom : (r.register handle kind).2.HasRoom) :
    (r.register handle kind).2.resolve (r.register handle kind).1 kind = .ok handle := by
  obtain ⟨hevolves, hid⟩ := h.evolves_register handle kind hroom
  rw [hid]
  obtain ⟨e, hholder, hlive⟩ | ⟨-, hlive⟩ := h.live_idFor kind hevolves
  · obtain ⟨-, hkey⟩ := h.holder?_eq_some_iff.mp hholder
    obtain rfl : e.handle = handle := congrArg EntityKey.handle hkey
    have hagain := Entry.key_again (congrArg EntityKey.space hkey) none
    have hsame : (e.again kind none).kind = kind :=
      EntityKind.eq_of_space (congrArg EntityKey.space (hagain.trans hkey))
        (EntityKind.not_isObject_of_isDeclared hkind)
    have haccepts : kind.accepts (e.again kind none).kind := by
      rw [hsame]
      exact kind.accepts_self
    rw [resolve_of_live? hlive haccepts]
    rfl
  · exact resolve_of_live? hlive kind.accepts_self

/-- **A type that is registered is known by the tag that it was answered with**, whether or not the
target was asked for it. -/
theorem WellFormed.resolveType_registerType (h : r.WellFormed) {facts : Except TargetError TypeTag}
    {t : TypeRef} (ht : (r.registerType handle facts).1 = .ok t)
    (hroom : (r.registerType handle facts).2.HasRoom) :
    (r.registerType handle facts).2.resolveType t.id = .ok (handle, t.tag) := by
  obtain ⟨hknown, hanswer⟩ := h.evolves_knownType handle
  unfold registerType at ht hroom ⊢
  rcases hrun : r.knownType handle with ⟨_ | t', s⟩
  · rw [hrun] at hknown ht hroom
    cases facts with
    | error refusal => exact absurd ht nofun
    | ok tag =>
      obtain rfl := Except.ok.inj ht
      exact hknown.wellFormed.resolveType_registerTagged hroom
  · rw [hrun] at hknown hanswer ht
    obtain rfl := Except.ok.inj ht
    obtain ⟨e, hholder, hsome⟩ := Option.bind_eq_some_iff.mp hanswer.symm
    obtain ⟨tag, htag, rfl⟩ := Option.map_eq_some_iff.mp hsome
    obtain ⟨hlive, hkey⟩ := h.holder?_eq_some_iff.mp hholder
    have hlive' : s.live? e.id = some e.counted := by
      rw [hknown.live?, Option.filter_none, Option.none_or, hlive, Option.bind_some, if_pos hkey]
    have hkind := Entry.kind_of_space (congrArg EntityKey.space hkey)
    refine resolveType_of_live? hlive' (Entry.type?_eq_some_iff.mpr ⟨hkind, ?_, htag⟩)
    exact congrArg EntityKey.handle hkey

/-- A type that is known is registered under its id, with its tag. -/
theorem WellFormed.registerType_of_resolveType (h : r.WellFormed) {tag : TypeTag}
    (hr : r.resolveType id = .ok (handle, tag)) (facts : Except TargetError TypeTag)
    (hroom : (r.registerType handle facts).2.HasRoom) :
    (r.registerType handle facts).1 = .ok ⟨tag, id⟩ := by
  obtain ⟨e, he, htype⟩ := exists_of_resolveType hr
  obtain ⟨hkind, rfl, htag⟩ := Entry.type?_eq_some_iff.mp htype
  obtain rfl := h.id_of_live? he
  have hkey : e.key = ⟨.referenceTypes, e.handle⟩ := by rw [Entry.key, hkind]; rfl
  have hholder := h.holder?_eq_some_iff.mpr ⟨he, hkey⟩
  rw [(h.evolves_registerType e.handle facts hroom).2, typeAnswer, idFor, hholder,
    Option.bind_some, htag]
  rfl

/-- A type or a member that resolves is registered under its id. -/
theorem WellFormed.register_of_resolve (h : r.WellFormed)
    (hr : r.resolve id kind = .ok handle) (hroom : (r.register handle kind).2.HasRoom) :
    (r.register handle kind).1 = id := by
  obtain ⟨e, he, haccepts, rfl⟩ := exists_of_resolve hr
  obtain rfl := h.id_of_live? he
  have hkey : e.key = ⟨IdSpace.of kind, e.handle⟩ := by
    rw [Entry.key, EntityKind.space_of_accepts haccepts]
  rw [(h.evolves_register e.handle kind hroom).2, idFor, h.holder?_eq_some_iff.mpr ⟨he, hkey⟩]
  rfl

/-! ## Positions that are registered -/

/-- The wire form of a position in a method of a type.  What the target says of the type's tag
counts only where no tag is known. -/
def toPosition (r : Registry) (type : Handle) (facts : Except TargetError TypeTag)
    (method : Handle) (index : UInt64) : Except TargetError Position × Registry :=
  match r.registerType type facts with
  | (.error refusal, r) => (.error refusal, r)
  | (.ok t, r) =>
      let (id, r) := r.register method .method
      (.ok ⟨t.tag, t.id, id, index⟩, r)

section toPosition

variable {type method : Handle} {facts : Except TargetError TypeTag} {index : UInt64}

/-- Only registrations are made for it. -/
theorem exists_run_toPosition (r : Registry) (type : Handle) (facts : Except TargetError TypeTag)
    (method : Handle) (index : UInt64) :
    ∃ ops, (r.toPosition type facts method index).2 = r.run ops ∧ ∀ op ∈ ops, op.registers := by
  unfold toPosition
  split
  · next refusal s hs =>
    exact ⟨[.registerType type facts], (congrArg Prod.snd hs).symm,
      List.forall_mem_singleton.mpr rfl⟩
  · next t s hs =>
    refine ⟨[.registerType type facts, .register method .method], ?_,
      List.forall_mem_cons.mpr ⟨rfl, List.forall_mem_singleton.mpr rfl⟩⟩
    have hs' : ((Operation.registerType type facts).perform r).2 = s := congrArg Prod.snd hs
    rw [run_cons, hs']
    rfl

theorem later_toPosition (r : Registry) (type : Handle) (facts : Except TargetError TypeTag)
    (method : Handle) (index : UInt64) : Later r (r.toPosition type facts method index).2 := by
  obtain ⟨ops, hops, -⟩ := r.exists_run_toPosition type facts method index
  rw [hops]
  exact later_run ops r

/-- Writing a position takes nothing away. -/
theorem WellFormed.extends_toPosition (h : r.WellFormed)
    (hroom : (r.toPosition type facts method index).2.HasRoom) :
    Extends r (r.toPosition type facts method index).2 := by
  obtain ⟨ops, hops, hregisters⟩ := r.exists_run_toPosition type facts method index
  rw [hops] at hroom ⊢
  exact h.extends_run (fun op hop => Operation.grows_of_registers (hregisters op hop)) hroom

theorem WellFormed.of_registerType (h : r.WellFormed) {answer : Except TargetError TypeRef}
    (hs : r.registerType type facts = (answer, s)) (hroom : s.HasRoom) :
    s.WellFormed ∧ Extends r s := by
  obtain rfl : (r.registerType type facts).2 = s := congrArg Prod.snd hs
  have hgrown : Extends r (r.run [.registerType type facts]) :=
    h.extends_run (List.forall_mem_singleton.mpr rfl) hroom
  exact ⟨(h.evolves_registerType type facts hroom).1.wellFormed, hgrown⟩

/-- The index goes through as it is. -/
theorem index_of_toPosition {w : Position}
    (hw : (r.toPosition type facts method index).1 = .ok w) : w.index = index := by
  unfold toPosition at hw
  split at hw
  · exact absurd hw nofun
  · exact (congrArg Position.index (Except.ok.inj hw)).symm

/-- **The ids of a position stand for the type and the method that it was made of.** -/
theorem WellFormed.bears_toPosition (h : r.WellFormed) {w : Position}
    (hw : (r.toPosition type facts method index).1 = .ok w)
    (hroom : (r.toPosition type facts method index).2.HasRoom) :
    (r.toPosition type facts method index).2.Bears ⟨w, type, method⟩ := by
  have hknown (t : TypeRef) (ht : (r.registerType type facts).1 = .ok t) :=
    h.resolveType_registerType ht
  unfold toPosition at hw hroom ⊢
  rcases hs : r.registerType type facts with ⟨refusal | t, s⟩ <;> rw [hs] at hw hroom hknown
  · exact absurd hw nofun
  · obtain rfl := Except.ok.inj hw
    have hroom' : s.HasRoom := hroom.of_later (later_register method .method)
    obtain ⟨hwf, -⟩ := h.of_registerType hs hroom'
    have hgrown : Extends s (s.run [.register method .method]) :=
      hwf.extends_run (List.forall_mem_singleton.mpr rfl) hroom
    exact ⟨hgrown.resolveType (hknown t rfl hroom'), hwf.resolve_register rfl hroom⟩

/-- **A position whose ids stand for what it names is written as it is.** -/
theorem WellFormed.toPosition_of_bears (h : r.WellFormed) {place : CodePosition}
    (hr : r.Bears place)
    (hroom : (r.toPosition place.declaringType facts place.method place.wire.index).2.HasRoom) :
    (r.toPosition place.declaringType facts place.method place.wire.index).1 = .ok place.wire := by
  have hanswer := h.registerType_of_resolveType hr.type facts
  unfold toPosition at hroom ⊢
  rcases hs : r.registerType place.declaringType facts with ⟨refusal | t, s⟩ <;>
    rw [hs] at hroom hanswer
  · exact absurd (hanswer hroom) nofun
  · have hroom' : s.HasRoom := hroom.of_later (later_register place.method .method)
    obtain rfl := Except.ok.inj (hanswer hroom')
    obtain ⟨hwf, hgrown⟩ := h.of_registerType hs hroom'
    have hid : (s.register place.method .method).1 = place.wire.method :=
      hwf.register_of_resolve (hgrown.resolve hr.method) hroom
    dsimp only
    rw [hid]

end toPosition

/-- The bytes that were written for a method are read as a position in it until a call ends the id
of the declaring type or that of the method. -/
structure ReadsBack (method : Handle) (index : UInt64) (declaringType : Handle) (r : Registry)
    (bytes : Bytes) (w : Position) : Prop where
  written : bytes = Bytes.ofPosition w
  length : bytes.length = 25
  index : w.index = index
  lasting : ∀ after, (r.run after).HasRoom → ∀ p rest,
    ((r.run after).readPosition.run ⟨p, bytes ++ rest⟩ =
        (.ok ⟨w, declaringType, method⟩, ⟨p + 25, rest⟩) ↔
      ∀ op ∈ after, op.ends w.declaringType declaringType = false ∧
        op.ends w.method method = false)

/-- **What a position is written as is read back**, in any table that came of calls. -/
theorem Reachable.readsBack_toPosition (h : r.Reachable) {type method : Handle}
    {facts : Except TargetError TypeTag} {index : UInt64} {w : Position}
    (hw : (r.toPosition type facts method index).1 = .ok w) :
    (r.toPosition type facts method index).2.ReadsBack method index type (Bytes.ofPosition w)
      w := by
  refine ⟨rfl, length_ofPosition w, index_of_toPosition hw, fun after hroom p rest => ?_⟩
  obtain ⟨ops, hops, -⟩ := r.exists_run_toPosition type facts method index
  have hroom' := hroom.of_later (later_run after _)
  have hreachable : (r.toPosition type facts method index).2.Reachable := hops ▸ h.run ops
  have hwf := h.wellFormed (hroom'.of_later (later_toPosition r type facts method index))
  exact (hreachable.wellFormed hroom').readPosition_run_iff (hreachable.pinsObjects hroom') hroom
    (hwf.bears_toPosition hw hroom') p rest

end Registry
end DebugWire

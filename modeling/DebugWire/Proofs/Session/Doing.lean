import DebugWire.Proofs.Registry.Position
import DebugWire.Proofs.Session.Decoding
import DebugWire.Proofs.Session.Installing

/-!
# Proofs/Session/Doing — steps that succeed, as programs of the table

Where the target answers what it is asked, and stays as it is, the rest of a command is calls of the
table: `Does t x w` says that the step `x` succeeds on the target `t`, and makes of the table what
the program `w` makes of it.  So what `Tells` says of a program is said of a reply.

A list is written item by item (`Writing.list`), which is why a list that is asked for in two parts
is written as it is when asked for at once (`Writing.run_entries_append`).  It is also written as
before when it is asked for again: `Echoes x a s` says that the program `x` answers `a` on any table
that takes nothing away from `s`, and the programs below do so on the table that they leave
(`Writing.Steady`).
-/

namespace DebugWire

open Registry

variable {α β γ σ : Type} {kinds : Handle → ObjectKind}

/-! ## Programs that do what a step does -/

/-- The same call, with another table. -/
def Call.withRegistry (c : Call σ) (r : Registry) : Call σ :=
  { c with backend := { c.backend with registry := r } }

namespace Writing

/-- The id and the tag of a type with a given tag. -/
def typeRef (type : Handle) (tag : TypeTag) : StateM Registry TypeRef := do
  match ← modifyGet (·.knownType type) with
  | some t => return t
  | none => modifyGet (·.registerTagged type tag)

/-- The wire form of a position in a method of a type. -/
def place (type : Handle) (tag : TypeTag) (method : Handle) (index : UInt64) :
    StateM Registry Body := do
  let t ← typeRef type tag
  let id ← modifyGet (·.register method .method)
  return .ofPosition type method ⟨t.tag, t.id, id, index⟩

/-- The items of a list, one after the other. -/
def entries (xs : List α) (item : α → StateM Registry Body) : StateM Registry Body :=
  List.flatten <$> xs.mapM item

/-- The written form of a list. -/
def list (xs : List α) (item : α → StateM Registry Body) : StateM Registry Body :=
  (Body.plain (Bytes.ofCount xs.length) ++ ·) <$> entries xs item

end Writing

namespace Action

/-! ## Steps that succeed -/

/-- The next part of the payload is read. -/
theorem run_read {x : Read α} {bs : Bytes} {a : α} (h : Reads x bs a) (b : Backend σ) (p : Nat)
    (rest : Bytes) :
    (read x).run ⟨b, ⟨p, bs ++ rest⟩⟩ = (.ok a, ⟨b, ⟨p + bs.length, rest⟩⟩) := by
  rw [read, Attempt.run_within, h p rest]
  rfl

/-- The last read of a payload leaves nothing behind. -/
theorem run_read_last {x : Read α} {bs : Bytes} {a : α} (h : Reads x bs a) (b : Backend σ)
    (p : Nat) : (read x).run ⟨b, ⟨p, bs⟩⟩ = (.ok a, ⟨b, ⟨p + bs.length, []⟩⟩) := by
  have hrun := run_read h b p []
  rwa [List.append_nil] at hrun

/-- The next id of the payload stands for an entity. -/
theorem run_entity {b : Backend σ} {id : WireId} {kind : EntityKind} {handle : Handle}
    (h : b.registry.resolve id kind = .ok handle) (p : Nat) (rest : Bytes) :
    (entity kind).run ⟨b, ⟨p, Bytes.ofWireId id ++ rest⟩⟩ =
      (.ok handle, ⟨b, ⟨p + (Bytes.ofWireId id).length, rest⟩⟩) :=
  (Parses.decode (b.registry.parses_readEntity kind)).run ⟨id, rfl, h⟩ p rest

/-- The target answers, and stays as it is. -/
theorem run_call {x : TargetCall σ α} {c : Call σ} {a : α}
    (h : x.run c.backend.target = (.ok a, c.backend.target)) : (call x).run c = (.ok a, c) := by
  rw [call, Attempt.run_within, h]
  rfl

/-- The step succeeds on the target, and does to the table what the program does. -/
def Does (t : σ) (x : Action σ α) (w : StateM Registry α) : Prop :=
  ∀ c : Call σ, c.backend.target = t →
    x.run c = (.ok (w.run c.backend.registry).1, c.withRegistry (w.run c.backend.registry).2)

namespace Does

variable {t : σ} {x : Action σ α} {w : StateM Registry α}

theorem pure (a : α) : Does t (Pure.pure a) (Pure.pure a) := fun _ _ => rfl

/-- **One step after the other.** -/
theorem bind {f : α → Action σ β} {g : α → StateM Registry β} (hx : Does t x w)
    (hf : ∀ a, Does t (f a) (g a)) : Does t (x >>= f) (w >>= g) := by
  intro c hc
  rw [Attempt.run_bind_of_ok (hx c hc)]
  exact hf _ (c.withRegistry _) hc

theorem map (hx : Does t x w) (g : α → β) : Does t (g <$> x) (g <$> w) := by
  intro c hc
  rw [Attempt.run_map, hx c hc]
  rfl

theorem registry (f : Registry → α × Registry) : Does t (Action.registry f) (modifyGet f) :=
  fun _ _ => rfl

/-- What the target answers is known beforehand. -/
theorem call_bind {x : TargetCall σ α} {a : α} (hx : x.run t = (.ok a, t)) {f : α → Action σ β}
    {w : StateM Registry β} (hf : Does t (f a) w) : Does t (call x >>= f) w := by
  rintro c rfl
  rw [Attempt.run_bind_of_ok (run_call hx)]
  exact hf c rfl

/-- Items that are each done as another is written. -/
theorem mapM {item : α → Action σ β} {write : γ → StateM Registry β} {as : List α} {cs : List γ}
    (hitems : List.Forall₂ (fun a c => Does t (item a) (write c)) as cs) :
    Does t (as.mapM item) (cs.mapM write) := by
  induction hitems with
  | nil => exact .pure []
  | cons hfirst _ ih =>
    rw [List.mapM_cons, List.mapM_cons]
    exact hfirst.bind fun b => ih.bind fun bs => .pure (b :: bs)

/-- Item by item, each step with its own program. -/
theorem list_of_rel {item : α → Action σ Body} {write : γ → StateM Registry Body} {as : List α}
    {cs : List γ} (hitems : List.Forall₂ (fun a c => Does t (item a) (write c)) as cs) :
    Does t (Action.list as item) (Writing.list cs write) := by
  rw [Action.list, hitems.length_eq]
  exact (mapM hitems).bind fun _ => .pure _

theorem list {item : α → Action σ Body} {write : α → StateM Registry Body} {as : List α}
    (hitem : ∀ a ∈ as, Does t (item a) (write a)) :
    Does t (Action.list as item) (Writing.list as write) :=
  list_of_rel (List.forall₂_same.mpr hitem)

theorem idOf (handle : Handle) (kind : EntityKind) : Does t (Action.idOf handle kind)
    (Body.ofEntity handle <$> modifyGet (·.register handle kind)) := (registry _).map _

theorem tagged (v : TargetValue) :
    Does t (Action.tagged v) (Body.ofTagged v <$> modifyGet (·.toWire v)) := (registry _).map _

theorem untagged (v : TargetValue) :
    Does t (Action.untagged v) (Body.ofValue v <$> modifyGet (·.toWire v)) := (registry _).map _

variable [Target σ]

/-- A type whose facts are told is tagged with them, unless it has its tag already. -/
theorem typeRef {type : Handle} {facts : TypeFacts}
    (hfacts : (Target.typeFacts type : TargetCall σ TypeFacts).run t = (.ok facts, t)) :
    Does t (Action.typeRef type) (Writing.typeRef type facts.typeTag) := by
  refine (registry _).bind fun known => ?_
  cases known with
  | some known => exact .pure known
  | none => exact .call_bind hfacts (.registry _)

/-- A place is told from the facts of its method and of the type that declares it. -/
theorem place {method : Handle} {member : MemberFacts} {facts : TypeFacts} (index : UInt64)
    (hmember : (Target.methodFacts method : TargetCall σ MemberFacts).run t = (.ok member, t))
    (hfacts : (Target.typeFacts member.declaringType : TargetCall σ TypeFacts).run t =
      (.ok facts, t)) :
    Does t (Action.place method index)
      (Writing.place member.declaringType facts.typeTag method index) := by
  refine .call_bind hmember ((typeRef hfacts).bind fun t => ?_)
  exact (registry _).bind fun id => .pure _

end Does
end Action

namespace Writing

/-- **A list in two parts:** the second is written where the first left the table. -/
theorem run_entries_append (xs ys : List α) (item : α → StateM Registry Body) (r : Registry) :
    (entries (xs ++ ys) item).run r =
      (((entries xs item).run r).1 ++ ((entries ys item).run ((entries xs item).run r).2).1,
        ((entries ys item).run ((entries xs item).run r).2).2) := by
  rw [entries, List.mapM_append]
  exact Prod.ext List.flatten_append rfl

theorem run_list (xs : List α) (item : α → StateM Registry Body) (r : Registry) :
    (list xs item).run r = (Body.plain (Bytes.ofCount xs.length) ++ ((entries xs item).run r).1,
      ((entries xs item).run r).2) := rfl

/-! ## What is told -/

theorem registerType_eq (r : Registry) (type : Handle) (tag : TypeTag) :
    r.registerType type (.ok tag) = ((typeRef type tag).run r).map .ok id := by
  change _ = Prod.map _ id (StateT.run (m := Id) (match (r.knownType type).1 with
    | some t => Pure.pure t
    | none => modifyGet (·.registerTagged type tag)) (r.knownType type).2)
  unfold registerType
  rcases r.knownType type with ⟨_ | t, s⟩ <;> rfl

theorem tells_typeRef (type : Handle) (tag : TypeTag) :
    Tells kinds (typeRef type tag) fun t s => s.resolveType t.id = .ok (type, t.tag) := by
  intro r
  have hrun := registerType_eq r type tag
  have hlearns : Learns kinds r (r.registerType type (.ok tag)).2 :=
    .perform (.registerType type (.ok tag)) rfl
      (.of_subject rfl (.of_not_object Bool.false_ne_true)) r
  have hstate : (r.registerType type (.ok tag)).2 = ((typeRef type tag).run r).2 :=
    congrArg Prod.snd hrun
  rw [hstate] at hlearns
  refine ⟨hlearns, fun hr hroom => ?_⟩
  rw [← hstate] at hroom ⊢
  exact hr.wellFormed.resolveType_registerType (congrArg Prod.fst hrun) hroom

/-- An id is told that stands for the entity. -/
theorem tells_idOf {handle : Handle} {kind : EntityKind} (hkind : kind.Suits kinds handle) :
    Tells kinds (Body.ofEntity handle <$> modifyGet (·.register handle kind))
      (Spells Read.wireId fun s id => s.resolve id kind = .ok handle) := by
  refine .map ((tells_register hkind).mono fun id s hid => ⟨id, ?_, hid⟩)
  rw [Body.bytes_ofEntity]
  exact Read.reads_wireId id

/-- A position is written as one that names the method and its type. -/
theorem tells_place (type : Handle) (tag : TypeTag) (method : Handle) (index : UInt64) :
    Tells kinds (place type tag method index) (Spells Read.position fun s w =>
      s.Bears ⟨w, type, method⟩ ∧ w.index = index) := by
  have hmethod : EntityKind.method.Suits kinds method := .of_not_object Bool.false_ne_true
  refine (tells_typeRef type tag).bind (fun _ _ _ hs h => hs.resolveType h) fun t => ?_
  refine (tells_register hmethod).bind (fun _ _ _ hs h => hs.resolve h) fun id => ?_
  refine .pure fun s hid htype => ⟨⟨t.tag, t.id, id, index⟩, ?_, ⟨htype, hid⟩, rfl⟩
  rw [Body.bytes_ofPosition]
  exact Read.reads_position _

end Writing

/-- A list: how long it is, then its items. -/
def Read.list (x : Read β) : Read (List β) := do
  let n ← count
  times x n

/-- Items that were written one by one, behind their number. -/
theorem Read.reads_list {x : Read β} {parts : List Bytes} {bs : List β}
    (hmany : parts.length < 2 ^ 31) (h : List.Forall₂ (Reads x) parts bs) :
    Reads (list x) (Bytes.ofCount parts.length ++ parts.flatten) bs :=
  (reads_count hmany).bind (reads_times h)

/-- **A list is read as what is told of its items.** -/
theorem Writing.tells_list {x : Read β} {R : Registry → α → β → Prop}
    (hR : ∀ a b, Lasting (R · a b)) {write : α → StateM Registry Body} {as : List α}
    (hmany : as.length < 2 ^ 31)
    (hwrite : ∀ a ∈ as, Tells kinds (write a) (Spells x fun s b => R s a b)) :
    Tells kinds (list as write)
      (Spells (Read.list x) fun s bs => List.Forall₂ (R s) as bs) := by
  refine .map (.map ((Tells.mapM (fun a body => Spells.lasting (hR a) body) hwrite).mono ?_))
  intro bodies s htold
  obtain ⟨bs, hreads, hbs⟩ := exists_of_spells htold
  refine ⟨bs, ?_, hbs⟩
  have hcount : as.length = (bodies.map Body.bytes).length := by
    rw [List.length_map, htold.length_eq]
  rw [hcount] at hmany
  rw [Body.bytes_append, Body.bytes_plain, Body.bytes_flatten, hcount]
  exact Read.reads_list hmany hreads

/-! ## Asked again -/

/-- On any table that takes nothing away from `s`, the program answers `a`. -/
def Echoes (x : StateM Registry α) (a : α) (s : Registry) : Prop :=
  ∀ s' : Registry, s'.WellFormed → Extends s s' → (x.run s').2.HasRoom → (x.run s').1 = a

theorem Echoes.lasting (x : StateM Registry α) (a : α) : Lasting (Echoes x a) :=
  fun _ _ hs h s' hwf hs' => h s' hwf (hs.trans hs')

namespace Writing

/-- The program answers the same again, once it has run. -/
def Steady (kinds : Handle → ObjectKind) (x : StateM Registry α) : Prop :=
  Tells kinds x (Echoes x)

namespace Steady

variable {x : StateM Registry α}

theorem pure (a : α) : Steady kinds (Pure.pure a) := Tells.pure fun _ _ _ _ _ => rfl

theorem bind {f : α → StateM Registry β} (hx : Steady kinds x) (hf : ∀ a, Steady kinds (f a)) :
    Steady kinds (x >>= f) := by
  refine Tells.bind hx (Echoes.lasting x) fun a => (hf a).mono fun b s hb ha s' hwf hs hroom => ?_
  have hlearns := (hx s').1
  have hroom' : (x.run s').2.HasRoom := hroom.of_later (hf _ _).1.later
  have hfirst : (x.run s').1 = a := ha s' hwf hs hroom'
  change ((f (x.run s').1).run (x.run s').2).2.HasRoom at hroom
  change ((f (x.run s').1).run (x.run s').2).1 = b
  rw [hfirst] at hroom ⊢
  exact hb _ (hlearns.wellFormed hwf hroom') (hs.trans (hlearns.extending hwf hroom')) hroom

theorem map (hx : Steady kinds x) (g : α → β) : Steady kinds (g <$> x) :=
  Tells.map (hx.mono fun _ _ h s' hwf hs hroom => congrArg g (h s' hwf hs hroom))

theorem mapM {item : α → StateM Registry β} {as : List α}
    (hitem : ∀ a ∈ as, Steady kinds (item a)) : Steady kinds (as.mapM item) := by
  induction as with
  | nil => exact .pure []
  | cons a as ih =>
    obtain ⟨hfirst, hrest⟩ := List.forall_mem_cons.mp hitem
    rw [List.mapM_cons]
    exact hfirst.bind fun b => (ih hrest).bind fun bs => .pure (b :: bs)

theorem list {item : α → StateM Registry Body} {as : List α}
    (hitem : ∀ a ∈ as, Steady kinds (item a)) : Steady kinds (list as item) :=
  ((mapM hitem).map _).map _

end Steady

/-- An entity that is registered again has the id that it has. -/
theorem steady_register {handle : Handle} {kind : EntityKind} (hkind : kind.Suits kinds handle) :
    Steady kinds (modifyGet (·.register handle kind)) :=
  (tells_register hkind).mono fun _ _ hid _ hwf hs hroom =>
    hwf.register_of_resolve (hs.resolve hid) hroom

theorem steady_typeRef (type : Handle) (tag : TypeTag) : Steady kinds (typeRef type tag) := by
  refine (tells_typeRef type tag).mono fun t s htype s' hwf hs hroom => ?_
  have hrun := registerType_eq s' type tag
  have hstate : (s'.registerType type (.ok tag)).2 = ((typeRef type tag).run s').2 :=
    congrArg Prod.snd hrun
  rw [← hstate] at hroom
  have hagain := hwf.registerType_of_resolveType (hs.resolveType htype) (.ok tag) hroom
  rw [hrun] at hagain
  exact Except.ok.inj hagain

theorem steady_place (type : Handle) (tag : TypeTag) (method : Handle) (index : UInt64) :
    Steady kinds (place type tag method index) := by
  have hmethod : EntityKind.method.Suits kinds method := .of_not_object Bool.false_ne_true
  exact (steady_typeRef type tag).bind fun _ => (steady_register hmethod).bind fun _ => .pure _

/-- What an id resolves to, or no entity, is registered under it. -/
theorem registerOptional_of_resolveOptional {s : Registry} (hs : s.WellFormed) {id : WireId}
    {kind : EntityKind} {handle : Option Handle}
    (hresolve : s.resolveOptional id kind = .ok handle)
    (hroom : (s.registerOptional handle kind).2.HasRoom) :
    (s.registerOptional handle kind).1 = id := by
  unfold resolveOptional at hresolve
  split at hresolve
  · next hnull =>
    obtain rfl := Except.ok.inj hresolve
    exact hnull.symm
  · obtain ⟨handle, hfound, rfl⟩ := exists_of_map_eq_ok hresolve
    exact hs.register_of_resolve hfound hroom

/-- A value keeps its wire form. -/
theorem steady_toWire {v : TargetValue} (hv : v.Suits kinds) :
    Steady kinds (modifyGet (·.toWire v)) := by
  refine (tells_toWire hv).mono fun w s hw s' hwf hs hroom => ?_
  change (s'.toWire v).2.HasRoom at hroom
  change (s'.toWire v).1 = w
  have hw' := hs.fromWire hw
  cases hv with
  | primitive p =>
    cases w with
    | primitive p' =>
      cases hw'
      rfl
    | object k id =>
      obtain ⟨_, -, h⟩ := exists_of_map_eq_ok hw'
      cases h
  | @reference k handle hkind =>
    cases w with
    | primitive p => cases hw'
    | object k' id =>
      obtain ⟨_, hresolve, h⟩ := exists_of_map_eq_ok hw'
      cases h
      rw [toWire_reference] at hroom ⊢
      exact congrArg (WireValue.object k)
        (registerOptional_of_resolveOptional hwf hresolve hroom)

end Writing

/-! ## A command -/

namespace Backend

variable [Target σ]

/-- Whatever befalls a backend, its table comes of calls. -/
theorem reachable_after {b : Backend σ} (hb : b.registry.Reachable) (hs : List (Happening σ)) :
    (b.after hs).registry.Reachable := by
  induction hs generalizing b with
  | nil => exact hb
  | cons h hs ih =>
    obtain ⟨named, hhands⟩ := hands_next b h
    obtain ⟨ops, -, hregistry, -⟩ := hhands.handing
    exact ih (hregistry ▸ hb.run ops)

theorem reachable_of_new {settings : BackendSettings} {target : σ} {b : Backend σ}
    (hnew : Backend.new settings target = .ok b) (hs : List (Happening σ)) :
    (b.after hs).registry.Reachable :=
  reachable_after ⟨_, _, [], registry_of_new hnew⟩ hs

/-- Answer a command that is called by its numbers. -/
def ask (b : Backend σ) (c : Command) (payload : Bytes) : Except String Reply × Backend σ :=
  b.dispatch Command.all c.numbers.1 c.numbers.2 payload

variable {b b' : Backend σ} {c : Command} {payload : Bytes}

theorem carries_of_alive (halive : Target.isAlive b.target = true) (c : Command) :
    b.carries? Command.all c.numbers.1 c.numbers.2 = some c := by
  rw [carries?, Command.find?_numbers]
  exact Option.filter_eq_some_iff.mpr ⟨rfl, by rw [halive]; rfl⟩

/-- A command that is carried out is answered with its body. -/
theorem ask_of_ok (halive : Target.isAlive b.target = true) {body : Body}
    (h : c.answer.perform payload b = (.ok body, b')) :
    b.ask c payload = (.ok (.ok body.bytes), b') := by
  rw [ask, dispatch, run_of_carries (carries_of_alive halive c), h]

/-- A command that fails is answered with the code of its error. -/
theorem ask_of_error (halive : Target.isAlive b.target = true) {e : CommandError} {code : ReplyCode}
    (h : c.answer.perform payload b = (.error e, b')) (hcode : e.replyCode = some code) :
    b.ask c payload = (.ok (.failed code), b') := by
  rw [ask, dispatch, run_of_carries (carries_of_alive halive c), h]
  simp only [hcode]

/-! ## A reply that lists -/

omit [Target σ] in
/-- The answer to a command lists `xs`: `front`, then the list as the program writes it. -/
structure Lists (b : Backend σ) (front : Bytes) (write : α → StateM Registry Body) (xs : List α)
    (told : Except String Reply × Backend σ) : Prop where
  reply : told.1 = .ok (.ok (front ++ ((Writing.list xs write).run b.registry).1.bytes))
  after : told.2 = { b with registry := ((Writing.list xs write).run b.registry).2 }

namespace Lists

variable {front : Bytes} {write : α → StateM Registry Body} {xs ys : List α}
  {told told' whole : Except String Reply × Backend σ}

omit [Target σ]

theorem registry (h : b.Lists front write xs told) :
    told.2.registry = ((Writing.list xs write).run b.registry).2 := by
  rw [h.after]

theorem reply_eq (h : b.Lists front write xs told) :
    told.1 = .ok (.ok (front ++ (Bytes.ofCount xs.length ++
      ((Writing.entries xs write).run b.registry).1.bytes))) := by
  rw [h.reply, Writing.run_list, Body.bytes_append, Body.bytes_plain]

theorem later (h : b.Lists front write xs told)
    (hwrite : ∀ a ∈ xs, Writing.Steady kinds (write a)) :
    b.registry.Later told.2.registry := by
  rw [h.registry]
  exact ((Writing.Steady.list hwrite) b.registry).1.later

/-- What is listed is told. -/
theorem tells {x : Read β} {R : Registry → α → β → Prop} (h : b.Lists front write xs told)
    (hR : ∀ a b, Lasting (R · a b)) (hmany : xs.length < 2 ^ 31)
    (hwrite : ∀ a ∈ xs, Writing.Tells kinds (write a) (Spells x fun s b => R s a b))
    (hb : b.registry.Uniform kinds) (hroom : told.2.registry.HasRoom) :
    ∃ bs, Reads (Read.list x) (Bytes.ofCount xs.length ++
        ((Writing.entries xs write).run b.registry).1.bytes) bs ∧
      List.Forall₂ (R told.2.registry) xs bs := by
  rw [h.registry] at hroom ⊢
  obtain ⟨bs, hreads, hbs⟩ := (Writing.tells_list hR hmany hwrite b.registry).2 hb hroom
  rw [Writing.run_list, Body.bytes_append, Body.bytes_plain] at hreads
  exact ⟨bs, hreads, hbs⟩

/-- A reply that lists takes nothing away. -/
theorem extending (h : b.Lists front write xs told)
    (hwrite : ∀ a ∈ xs, Writing.Steady kinds (write a)) (hb : b.registry.WellFormed)
    (hroom : told.2.registry.HasRoom) : b.registry.Extends told.2.registry := by
  rw [h.registry] at hroom ⊢
  exact ((Writing.Steady.list hwrite) b.registry).1.extending hb hroom

/-- **Asked again, it is answered as before**, on any table that takes nothing away. -/
theorem again {b' : Backend σ} (h : b.Lists front write xs told)
    (h' : b'.Lists front write xs told') (hwrite : ∀ a ∈ xs, Writing.Steady kinds (write a))
    (hb : b.registry.Uniform kinds) (hroom : told.2.registry.HasRoom)
    (hb' : b'.registry.WellFormed) (hextends : told.2.registry.Extends b'.registry)
    (hroom' : told'.2.registry.HasRoom) : told'.1 = told.1 := by
  rw [h.registry] at hroom hextends
  rw [h'.registry] at hroom'
  have hsame := ((Writing.Steady.list hwrite) b.registry).2 hb hroom b'.registry hb' hextends hroom'
  rw [h.reply, h'.reply, hsame]

/-- Where there is room for a list, there is room for what it begins with. -/
theorem hasRoom_of_append (hfirst : b.Lists front write xs told)
    (hwhole : b.Lists front write (xs ++ ys) whole)
    (hwrite : ∀ a ∈ ys, Writing.Steady kinds (write a)) (hroom : whole.2.registry.HasRoom) :
    told.2.registry.HasRoom := by
  rw [hwhole.registry, Writing.run_list, Writing.run_entries_append] at hroom
  rw [hfirst.registry, Writing.run_list]
  exact hroom.of_later ((Writing.Steady.list hwrite) _).1.later

/-- **A list in two parts** has the items of both, and leaves the backend as they do. -/
theorem append (hfirst : b.Lists front write xs told) (hthen : told.2.Lists front write ys told')
    (hwhole : b.Lists front write (xs ++ ys) whole) :
    whole.2 = told'.2 ∧ ∃ items items',
      told.1 = .ok (.ok (front ++ (Bytes.ofCount xs.length ++ items))) ∧
      told'.1 = .ok (.ok (front ++ (Bytes.ofCount ys.length ++ items'))) ∧
      whole.1 = .ok (.ok (front ++ (Bytes.ofCount (xs ++ ys).length ++ (items ++ items')))) := by
  have hboth := Writing.run_entries_append xs ys write b.registry
  have hregistry := hfirst.registry
  rw [Writing.run_list] at hregistry
  refine ⟨?_, _, _, hfirst.reply_eq, hthen.reply_eq, ?_⟩
  · rw [hwhole.after, hthen.after, hfirst.after, Writing.run_list, Writing.run_list, hboth]
    rfl
  · rw [hwhole.reply_eq, hboth, Body.bytes_append, hregistry]

end Lists

/-! ## A reply that lists a part -/

omit [Target σ] in
/-- The answer to a request for a part of a list: the items, or a refusal that changes nothing, as
to where the part begins or how long it is. -/
structure Cuts (b : Backend σ) (front : Bytes) (write : α → StateM Registry Body)
    (begins ends : Prop) (xs : List α) (told : Except String Reply × Backend σ) : Prop where
  outside : ¬begins → told = (.ok (.failed .invalidIndex), b)
  beyond : begins → ¬ends → told = (.ok (.failed .invalidLength), b)
  lists : begins → ends → b.Lists front write xs told

namespace Cuts

variable {front : Bytes} {write : α → StateM Registry Body} {begins ends : Prop} {xs : List α}
  {told : Except String Reply × Backend σ}

omit [Target σ]

/-- What is answered with a body has no code. -/
theorem ne_failed_of_ok {body : Bytes} (hok : told.1 = .ok (.ok body)) {code : ReplyCode}
    (hcode : code ≠ .none) : told.1 ≠ .ok (.failed code) := by
  rw [hok]
  exact fun hsame => hcode (congrArg Reply.code (Except.ok.inj hsame)).symm

theorem invalidIndex_iff (h : b.Cuts front write begins ends xs told) :
    told.1 = .ok (.failed .invalidIndex) ↔ ¬begins := by
  refine ⟨fun hfailed hbegins => ?_, fun hout => congrArg Prod.fst (h.outside hout)⟩
  by_cases hends : ends
  · exact absurd hfailed (ne_failed_of_ok (h.lists hbegins hends).reply nofun)
  · rw [h.beyond hbegins hends] at hfailed
    exact absurd (congrArg Reply.code (Except.ok.inj hfailed)) nofun

theorem invalidLength_iff (h : b.Cuts front write begins ends xs told) (hbegins : begins) :
    told.1 = .ok (.failed .invalidLength) ↔ ¬ends := by
  refine ⟨fun hfailed hends => ?_, fun hout => congrArg Prod.fst (h.beyond hbegins hout)⟩
  exact absurd hfailed (ne_failed_of_ok (h.lists hbegins hends).reply nofun)

/-- Nothing else is answered. -/
theorem within_of_ok (h : b.Cuts front write begins ends xs told) {body : Bytes}
    (hok : told.1 = .ok (.ok body)) : begins ∧ ends := by
  by_cases hbegins : begins
  · refine ⟨hbegins, ?_⟩
    by_cases hends : ends
    · exact hends
    · exact absurd ((h.invalidLength_iff hbegins).mpr hends) (ne_failed_of_ok hok nofun)
  · exact absurd (h.invalidIndex_iff.mpr hbegins) (ne_failed_of_ok hok nofun)

end Cuts
end Backend
end DebugWire

import DebugWire.Proofs.Session.Delivery
import DebugWire.Proofs.Session.Notice

/-!
# Proofs/Session/Decoding — event packets are read back as what was found

An event packet is written by registrations one after the other, and a debugger looks up its ids
only when all of them are made.  So what is written is told with the table that is there in the end:
`Tells kinds x P` says that `x` does nothing but truthful registrations, and that its result and the
last table satisfy `P`.  The rules go along the way a packet is written; what was told of a part
stays true while the rest is written (`Tells.bind`).  In the end the whole payload is read as the
notices that say what was found (`decoded_of_notify`).
-/

namespace DebugWire

open Registry

variable {α β σ : Type} {kinds : Handle → ObjectKind}

/-! ## Programs that tell -/

/-- What holds of a table holds of any that learned from it. -/
def Lasting (P : Registry → Prop) : Prop := ∀ r s, Extends r s → P r → P s

namespace Writing

/-- The program does nothing but truthful registrations, and tells `P`. -/
def Tells (kinds : Handle → ObjectKind) (x : StateM Registry α) (P : α → Registry → Prop) : Prop :=
  ∀ r : Registry, Learns kinds r (x.run r).2 ∧
    (r.Uniform kinds → (x.run r).2.HasRoom → P (x.run r).1 (x.run r).2)

namespace Tells

variable {P : α → Registry → Prop} {Q : β → Registry → Prop}

theorem pure {a : α} (h : ∀ s, P a s) : Tells kinds (Pure.pure a) P :=
  fun r => ⟨.refl r, fun _ _ => h r⟩

/-- **One program after the other.**  What the first told lasts. -/
theorem bind {x : StateM Registry α} {f : α → StateM Registry β} (hx : Tells kinds x P)
    (hP : ∀ a, Lasting (P a)) (hf : ∀ a, Tells kinds (f a) fun b s => P a s → Q b s) :
    Tells kinds (x >>= f) Q := by
  intro r
  obtain ⟨hlearns, hfirst⟩ := hx r
  obtain ⟨hlearns', hthen⟩ := hf (x.run r).1 (x.run r).2
  refine ⟨hlearns.trans hlearns', fun hr hroom => ?_⟩
  have hroom' : (x.run r).2.HasRoom := HasRoom.of_later hroom hlearns'.later
  have huniform := hlearns.uniform hr hroom'
  refine hthen huniform hroom (hP _ _ _ ?_ (hfirst hr hroom'))
  exact hlearns'.extending huniform.wellFormed hroom

theorem map {g : α → β} {x : StateM Registry α} (hx : Tells kinds x fun a => Q (g a)) :
    Tells kinds (g <$> x) Q := hx

theorem mono {P' : α → Registry → Prop} {x : StateM Registry α} (hx : Tells kinds x P)
    (h : ∀ a s, P a s → P' a s) : Tells kinds x P' :=
  fun r => ⟨(hx r).1, fun hr hroom => h _ _ ((hx r).2 hr hroom)⟩

/-- One result for each item. -/
theorem mapM {R : α → β → Registry → Prop} {item : α → StateM Registry β} {as : List α}
    (hR : ∀ a b, Lasting (R a b)) (hitem : ∀ a ∈ as, Tells kinds (item a) (R a)) :
    Tells kinds (as.mapM item) fun bs s => List.Forall₂ (fun a b => R a b s) as bs := by
  induction as with
  | nil => exact .pure fun _ => .nil
  | cons a as ih =>
    obtain ⟨hfirst, hrest⟩ := List.forall_mem_cons.mp hitem
    rw [List.mapM_cons]
    refine hfirst.bind (hR a) fun b => (ih hrest).bind ?_ fun bs => .pure fun s htold hfirst => ?_
    · exact fun bs r s hs htold => htold.imp fun a b => hR a b r s hs
    · exact .cons hfirst htold

end Tells

theorem tells_register {handle : Handle} {kind : EntityKind} (hkind : kind.Suits kinds handle) :
    Tells kinds (modifyGet (·.register handle kind)) fun id s => s.resolve id kind = .ok handle :=
  fun r => ⟨.perform (.register handle kind) rfl (.of_subject rfl hkind) r,
    fun hr hroom => hr.resolve_register hkind hroom⟩

theorem tells_registerTagged (type : Handle) (tag : TypeTag) :
    Tells kinds (modifyGet (·.registerTagged type tag))
      fun t s => s.resolveType t.id = .ok (type, t.tag) :=
  fun r => ⟨.perform (.registerTagged type tag) rfl
      (.of_subject rfl (.of_not_object Bool.false_ne_true)) r,
    fun hr hroom => hr.wellFormed.resolveType_registerTagged hroom⟩

theorem tells_toWire {v : TargetValue} (hv : v.Suits kinds) :
    Tells kinds (modifyGet (·.toWire v)) fun w s => s.fromWire w = .ok v :=
  fun r => ⟨.perform (.toWire v) rfl hv.truthful r, fun hr hroom => hr.fromWire_toWire hv hroom⟩

end Writing

open Writing

/-! ## The parts of a packet -/

/-- What was written is read as something that the table bears out. -/
def Spells (x : Read β) (R : Registry → β → Prop) (body : Body) (s : Registry) : Prop :=
  ∃ b, Reads x body.bytes b ∧ R s b

theorem Spells.lasting {x : Read β} {R : Registry → β → Prop} (hR : ∀ b, Lasting (R · b))
    (body : Body) : Lasting (Spells x R body) := by
  rintro r s hs ⟨b, hread, hb⟩
  exact ⟨b, hread, hR b r s hs hb⟩

/-- A part that may be missing, read as one that may be. -/
theorem tells_writePart {part : Option α} {missing : Body} {write : α → StateM Registry Body}
    {x : Read (Option β)} {R : Registry → α → β → Prop}
    (hmissing : part = none → Reads x missing.bytes none)
    (hwrite : ∀ a, part = some a →
      Tells kinds (write a) fun body s => ∃ b, Reads x body.bytes (some b) ∧ R s a b) :
    Tells kinds (writePart part missing write) (Spells x fun s b => Option.Rel (R s) part b) := by
  cases part with
  | none => exact .pure fun s => ⟨none, hmissing rfl, .none⟩
  | some a =>
    refine (hwrite a rfl).mono fun body s htold => ?_
    obtain ⟨b, hread, hb⟩ := htold
    exact ⟨some b, hread, .some hb⟩

/-- A part of which it is known whether it is there. -/
theorem tells_part {part : Option α} {write : α → StateM Registry Body} {there : Bool}
    {x : Read β} {R : Registry → α → β → Prop} (hthere : there = part.isSome)
    (hwrite : ∀ a, part = some a → Tells kinds (write a) (Spells x fun s b => R s a b)) :
    Tells kinds (writePart part [] write)
      (Spells (Read.part there x) fun s b => Option.Rel (R s) part b) := by
  subst hthere
  refine tells_writePart ?_ fun a ha => (hwrite a ha).mono fun body s htold => ?_
  · rintro rfl
    exact .pure none
  · subst ha
    obtain ⟨b, hread, hb⟩ := htold
    exact ⟨b, hread.map some, hb⟩

/-- A placement is written as a position that gives it back. -/
theorem Placement.tells_write (p : Placement) :
    Tells kinds p.write fun body s => ∃ w, body.bytes = Bytes.ofPosition w ∧ p.Says s w := by
  have hmethod : EntityKind.method.Suits kinds p.method := .of_not_object Bool.false_ne_true
  refine (tells_registerTagged p.declaringType p.tag).bind
    (fun _ _ _ hs h => hs.resolveType h) fun t => ?_
  refine (tells_register hmethod).bind
    (fun _ _ _ hs h => hs.resolve h) fun id => .pure fun s hmethod htype => ?_
  exact ⟨⟨t.tag, t.id, id, p.index⟩, Body.bytes_ofPosition _ _ _, htype, hmethod, rfl⟩

theorem TargetValue.tells_write {v : TargetValue} (hv : v.Suits kinds) :
    Tells kinds v.write (Spells Read.value fun s w => s.fromWire w = .ok v) := by
  refine .map ((tells_toWire hv).mono fun w s hw => ⟨w, ?_, hw⟩)
  rw [Body.bytes_ofTagged]
  exact Read.reads_value w

/-- The values and the texts of a finding can be written. -/
def Detail.Fits (kinds : Handle → ObjectKind) : Detail → Prop
  | .nothing => True
  | .preparedType _ _ signature _ => (Utf8.encode signature).length < 2 ^ 32
  | .unloadedType signature => (Utf8.encode signature).length < 2 ^ 32
  | .returned value => value.Suits kinds
  | .thrown _ _ => True
  | .touched _ _ _ _ value => ∀ v, value = some v → v.Suits kinds

theorem suits_plain (handle : Option Handle) :
    (TargetValue.reference (.object .plain) handle).Suits kinds := .reference fun _ _ => .plain

/-- What a field event tells, with the new value if there is one. -/
theorem Detail.tells_touched {kind : EventKind} {type field : Handle} {tag : TypeTag}
    {object : Option Handle} {value : Option TargetValue} {changed : Bool}
    (hfits : (Detail.touched type tag field object value).Fits kinds)
    (hchanged : changed = value.isSome) :
    Tells kinds ((Detail.touched type tag field object value).write kind)
      (Spells (Read.touched changed)
        fun s p => (Detail.touched type tag field object value).Says s kind p) := by
  have hfield : EntityKind.field.Suits kinds field := .of_not_object Bool.false_ne_true
  refine (tells_registerTagged type tag).bind (fun _ _ _ hs h => hs.resolveType h) fun t => ?_
  refine (tells_register hfield).bind
    (fun _ _ _ hs h => hs.resolve h) fun id => ?_
  refine (TargetValue.tells_write (suits_plain object)).bind
    (Spells.lasting fun _ _ _ hs h => hs.fromWire h) fun owner => ?_
  have hset := tells_part hchanged fun v hv => TargetValue.tells_write (hfits v hv)
  refine hset.bind (Spells.lasting ?_) fun set => ?_
  · exact fun _ _ _ hs h => rel_mono (fun _ _ h => hs.fromWire h) h
  refine .pure fun s hset howner hfield htype => ?_
  obtain ⟨v, hreadSet, hv⟩ := hset
  obtain ⟨w, hreadOwner, hw⟩ := howner
  refine ⟨.touched t id w v, ?_, .touched tag htype hfield hw hv⟩
  simp only [Body.bytes_append, Body.bytes_ofTypeRef, Body.bytes_ofEntity, List.append_assoc]
  refine (Read.reads_typeRef t).bind ((Read.reads_wireId id).bind ?_)
  exact hreadOwner.bind (hreadSet.last rfl)

/-- What an exception event tells, with the place of the handler if there is one. -/
theorem Detail.tells_thrown {kind : EventKind} (exception : Handle) (handler : Option Placement) :
    Tells kinds ((Detail.thrown exception handler).write kind)
      (Spells (Read.particulars .exception)
        fun s p => (Detail.thrown exception handler).Says s kind p) := by
  refine (TargetValue.tells_write (suits_plain (some exception))).bind
    (Spells.lasting fun _ _ _ hs h => hs.fromWire h) fun object => ?_
  have hplace : Tells kinds (writePart handler (.plain Bytes.noPosition) Placement.write)
      (Spells Read.positionOrNone fun s w => Option.Rel (Placement.Says s) handler w) := by
    refine tells_writePart (fun _ => ?_) fun p _ => p.tells_write.mono fun body s htold => ?_
    · rw [Body.bytes_plain]
      exact Read.reads_positionOrNone_none
    · obtain ⟨w, hbytes, hw⟩ := htold
      exact ⟨w, hbytes ▸ Read.reads_positionOrNone_some w, hw⟩
  refine hplace.bind (Spells.lasting ?_) fun place => .pure fun s hplace hobject => ?_
  · exact fun _ _ _ hs h => rel_mono (fun _ _ h => h.mono hs) h
  obtain ⟨p, hreadPlace, hp⟩ := hplace
  obtain ⟨w, hreadObject, hw⟩ := hobject
  refine ⟨.thrown w p, ?_, .thrown hw hp⟩
  rw [Body.bytes_append]
  exact hreadObject.bind (hreadPlace.last rfl)

/-! ## A packet -/

/-- The kind of a code event tells that it has a thread and a place. -/
theorem CodeEvent.tells_of_mem_kinds {event : CodeEvent} {kind : EventKind}
    (h : kind ∈ event.kinds) : kind.tellsThread ∧ kind.tellsPlace := by
  revert kind
  cases event <;> simp [kinds, EventKind.tellsThread, EventKind.tellsPlace]

/-- The kind of an event tells whether it has a thread. -/
theorem Occurrence.tellsThread_eq {o : Occurrence} {kind : EventKind} (h : kind ∈ o.kinds) :
    kind.tellsThread = o.thread?.isSome := by
  cases o with
  | code spot event => exact (CodeEvent.tells_of_mem_kinds h).1
  | _ =>
    obtain rfl := List.mem_singleton.mp h
    rfl

section

variable [Target σ] {t : σ} {o : Occurrence} {f : Finding} {hit : Hit} {place : Option Placement}
  {detail : Detail} {kind : EventKind}

theorem Detail.Of.tellsPlace_eq (h : Detail.Of t o place detail) (hkind : kind ∈ o.kinds) :
    kind.tellsPlace = place.isSome := by
  cases h with
  | code hplace hdetail => exact (CodeEvent.tells_of_mem_kinds hkind).2
  | _ =>
    obtain rfl := List.mem_singleton.mp hkind
    rfl

/-- **What an event tells** beyond its thread and its place. -/
theorem Detail.Of.tells_write (h : Detail.Of t o place detail) (hfits : detail.Fits kinds)
    (hkind : kind ∈ o.kinds) :
    Tells kinds (detail.write kind)
      (Spells (Read.particulars kind) fun s p => detail.Says s kind p) := by
  cases h with
  | vmStart | vmDeath | threadStart | threadDeath =>
    obtain rfl := List.mem_singleton.mp hkind
    exact .pure fun s => ⟨.nothing, .pure _, .nothing⟩
  | classPrepare thread htold =>
    obtain rfl := List.mem_singleton.mp hkind
    refine (tells_registerTagged _ _).bind (fun _ _ _ hs h => hs.resolveType h) fun t =>
      .pure fun s htype => ?_
    refine ⟨_, ?_, .preparedType _ _ _ htype⟩
    rw [Body.bytes_append, Body.bytes_ofTypeRef, Body.bytes_plain]
    refine (Read.reads_typeRef t).bind ((Read.reads_string hfits).bind ?_)
    exact (Read.reads_int32 _).last rfl
  | classUnload signature =>
    obtain rfl := List.mem_singleton.mp hkind
    refine .pure fun s => ⟨.unloadedType signature, ?_, .unloadedType signature⟩
    rw [Body.bytes_plain]
    exact (Read.reads_string hfits).map _
  | code hplace hdetail =>
    cases hdetail with
    | breakpoint | singleStep | methodEntry =>
      obtain rfl := List.mem_singleton.mp hkind
      exact .pure fun s => ⟨.nothing, .pure _, .nothing⟩
    | methodExit value =>
      -- who asks for the exit alone gets no value
      obtain rfl | hwith := List.mem_cons.mp hkind
      · have hunasked : EventKind.methodExit ≠ .methodExitWithReturnValue := nofun
        exact .pure fun s => ⟨.nothing, .pure _, .unasked hunasked value⟩
      · obtain rfl := List.mem_singleton.mp hwith
        refine (TargetValue.tells_write hfits).mono fun body s htold => ?_
        obtain ⟨w, hread, hw⟩ := htold
        exact ⟨.returned w, hread.map _, .returned rfl hw⟩
    | uncaught exception =>
      obtain rfl := List.mem_singleton.mp hkind
      exact tells_thrown exception none
    | caught exception hplace =>
      obtain rfl := List.mem_singleton.mp hkind
      exact tells_thrown exception _
    | fieldAccess htype object =>
      obtain rfl := List.mem_singleton.mp hkind
      exact tells_touched hfits rfl
    | fieldModification htype object value =>
      obtain rfl := List.mem_singleton.mp hkind
      exact tells_touched hfits rfl

/-- **The thread of an event** is told by the id that stands for it. -/
theorem Finding.Of.tells_thread {serial : UInt64} (h : Finding.Of t serial o f)
    (hthread : ∀ thread, o.thread? = some thread → kinds thread = .thread)
    (hkind : kind ∈ o.kinds) :
    Tells kinds
      (writePart f.sighting.thread [] fun thread =>
        Body.ofEntity thread <$> modifyGet (·.register thread (.object .thread)))
      (Spells (Read.part kind.tellsThread Read.wireId) fun s id =>
        Option.Rel (fun thread id => s.resolve id (.object .thread) = .ok thread)
          f.sighting.thread id) := by
  refine tells_part (h.sighting.thread ▸ Occurrence.tellsThread_eq hkind) fun thread hsome => ?_
  have hsuits : (EntityKind.object .thread).Suits kinds thread := by
    rintro _ ⟨⟩
    exact Or.inr (hthread thread (h.sighting.thread ▸ hsome)).symm
  refine .map ((tells_register hsuits).mono fun id s hid => ⟨id, ?_, hid⟩)
  rw [Body.bytes_ofEntity]
  exact Read.reads_wireId id

/-- **The place of an event**, if it has one. -/
theorem Finding.Of.tells_place {serial : UInt64} (h : Finding.Of t serial o f)
    (hkind : kind ∈ o.kinds) :
    Tells kinds (writePart f.place [] Placement.write)
      (Spells (Read.part kind.tellsPlace Read.position) fun s w =>
        Option.Rel (Placement.Says s) f.place w) := by
  refine tells_part (h.detail.tellsPlace_eq hkind) fun p _ => p.tells_write.mono ?_
  rintro body s ⟨w, hbytes, hw⟩
  exact ⟨w, hbytes ▸ Read.reads_position w, hw⟩

/-- **What one request is told** is read as a notice that says what was found. -/
theorem Finding.Of.tells_write {serial : UInt64} (h : Finding.Of t serial o f)
    (hthread : ∀ thread, o.thread? = some thread → kinds thread = .thread)
    (hfits : f.detail.Fits kinds) (hkind : hit.kind ∈ o.kinds) :
    Tells kinds (f.write hit) (Spells Read.notice fun s n => f.Says s hit n) := by
  refine (h.tells_thread hthread hkind).bind (Spells.lasting ?_) fun thread => ?_
  · exact fun _ _ _ hs h => rel_mono (fun _ _ h => hs.resolve h) h
  refine (h.tells_place hkind).bind (Spells.lasting ?_) fun place => ?_
  · exact fun _ _ _ hs h => rel_mono (fun _ _ h => h.mono hs) h
  refine (h.detail.tells_write hfits hkind).bind (Spells.lasting ?_) fun detail => ?_
  · exact fun _ _ _ hs h => h.mono hs
  refine .pure fun s hdetail hplace hthread => ?_
  obtain ⟨p, hreadDetail, hp⟩ := hdetail
  obtain ⟨w, hreadPlace, hw⟩ := hplace
  obtain ⟨id, hreadThread, hid⟩ := hthread
  refine ⟨⟨hit.kind, hit.request, id, w, p⟩, ?_, rfl, rfl, hid, hw, hp⟩
  simp only [Body.bytes_append, Body.bytes_plain, List.append_assoc]
  refine (Read.reads_eventKind hit.kind).bind ((Read.reads_int32 hit.request).bind ?_)
  exact hreadThread.bind (hreadPlace.bind (hreadDetail.last rfl))

/-- Parts that are read one by one as what is borne out. -/
theorem exists_of_spells {γ : Type} {x : Read β} {R : γ → β → Prop} {cs : List γ}
    {bodies : List Body}
    (h : List.Forall₂ (fun c body => ∃ b, Reads x (Body.bytes body) b ∧ R c b) cs bodies) :
    ∃ bs, List.Forall₂ (Reads x) (bodies.map Body.bytes) bs ∧ List.Forall₂ R cs bs := by
  induction h with
  | nil => exact ⟨[], .nil, .nil⟩
  | cons hfirst _ ih =>
    obtain ⟨b, hread, hb⟩ := hfirst
    obtain ⟨bs, hreads, hbs⟩ := ih
    exact ⟨b :: bs, .cons hread hreads, .cons hb hbs⟩

/-- **What all requests that were met are told**, to the last byte. -/
theorem Finding.Of.tells_composite {serial : UInt64} (h : Finding.Of t serial o f)
    (hthread : ∀ thread, o.thread? = some thread → kinds thread = .thread)
    (hfits : f.detail.Fits kinds) {hits : List Hit} (hkinds : ∀ hit ∈ hits, hit.kind ∈ o.kinds)
    (hmany : hits.length < 2 ^ 31) (policy : SuspendPolicy) :
    Tells kinds (f.composite policy hits) (Spells Read.composite fun s told =>
      told.1 = policy ∧ List.Forall₂ (f.Says s) hits told.2) := by
  refine (Tells.mapM (fun hit body => Spells.lasting (fun _ _ _ hs h => h.mono hs) body)
    fun hit hhit => h.tells_write hthread hfits (hkinds hit hhit)).bind ?_ fun bodies => ?_
  · exact fun bodies r s hs h => h.imp fun hit body =>
      Spells.lasting (fun _ _ _ hs h => h.mono hs) body r s hs
  refine .pure fun s htold => ?_
  obtain ⟨notices, hreads, hsays⟩ := exists_of_spells htold
  refine ⟨(policy, notices), ?_, rfl, hsays⟩
  have hcount : hits.length = (bodies.map Body.bytes).length := by
    rw [List.length_map, htold.length_eq]
  rw [Body.bytes_append, Body.bytes_plain, Body.bytes_flatten, List.append_assoc]
  refine (Read.reads_suspendPolicy policy).bind ((Read.reads_count hmany).bind ?_)
  rw [hcount]
  exact (Read.reads_times hreads).last rfl

end

/-! ## A report -/

theorem Backend.registry_deliver (f : Finding) (hits : List Hit) (b : Backend σ) :
    (b.deliver f hits).2.registry =
      ((f.composite (.strongest (hits.map (·.policy))) hits).run b.registry).2 :=
  registry_enqueue _ _

namespace Debuggee

/-- What a debugger makes of the packet that a report queues, once the target has told `f`. -/
structure Decoded [Target σ] (d : Debuggee σ) (o : Occurrence) (f : Finding)
    (packet payload : Bytes) (notices : List Notice) : Prop where
  packet : packet = CommandPacket.encode ⟨d.backend.nextPacketId, 64, 100, payload⟩
  /-- The payload is read to its last byte. -/
  read : Read.composite.run (.start payload) =
    (.ok (.strongest ((d.backend.met o).map (·.policy)), notices), ⟨payload.length, []⟩)
  /-- One notice for each request that is met, which says what was found.  Every id stands for its
  entity by the table right after the report. -/
  tells : List.Forall₂ (f.Says (d.notify o).2.backend.registry) (d.backend.met o) notices
  /-- What was found is of the occurrence, as the target told it. -/
  found : Finding.Of d.backend.target d.backend.requests.nextSerial o f
  kinds : ∀ hit ∈ d.backend.met o, hit.kind ∈ o.kinds

variable [Target σ] {d : Debuggee σ} {o : Occurrence}

/-- **A packet that a report queues** is written for those who are met, one after the other. -/
theorem written_of_queued {f : Finding} {target : σ}
    (hfound : (Finding.find d.backend.requests.nextSerial o).run d.backend.target =
      (.ok f, target)) {packet : Bytes}
    (hqueued : (d.notify o).2.backend.queue = d.backend.queue ++ [packet]) :
    (∀ hit ∈ d.backend.met o, hit.kind ∈ o.kinds) ∧
      ∃ written, written = (f.composite (.strongest ((d.backend.met o).map (·.policy)))
          (d.backend.met o)).run d.backend.registry ∧
        packet = CommandPacket.encode ⟨d.backend.nextPacketId, 64, 100, written.1.bytes⟩ ∧
        (d.notify o).2.backend.registry = written.2 := by
  have hdisposed : ¬ d.backend.disposed := by
    intro hdisposed
    rw [backend_notify, Backend.announce_of_disposed hdisposed] at hqueued
    exact absurd hqueued (by simp)
  rcases hasked : d.backend.requests.takeSerial.2.hitsOf f.sighting o.kinds with ⟨hits, requests⟩
  have hmet : d.backend.met o = hits := by
    rw [Backend.met, if_neg hdisposed, hfound]
    exact congrArg Prod.fst hasked
  have hannounce := Backend.announce_of_found hdisposed hfound hasked
  have hnone : ¬ hits.isEmpty := by
    intro hnone
    rw [backend_notify, hannounce, if_pos hnone] at hqueued
    exact absurd hqueued (by simp)
  rw [backend_notify, hannounce, if_neg hnone, Backend.queue_deliver] at hqueued
  split at hqueued
  · exact absurd hqueued (by simp)
  rw [hmet, backend_notify, hannounce, if_neg hnone]
  refine ⟨fun hit hhit => ?_, _, rfl, ?_, Backend.registry_deliver _ _ _⟩
  · have hhit' : hit ∈ (d.backend.requests.takeSerial.2.hitsOf f.sighting o.kinds).1 := by
      rwa [hasked]
    exact RequestTable.kind_of_mem_hitsOf hhit'
  · exact (List.singleton_inj.mp (List.append_cancel_left hqueued)).symm

/-- **Event packets are read back as what was found.**  So far every call of the table said of an
object what it is, or that it is one, and so does the event; the texts and the list of requests fit
the fields that tell their lengths, and the ids do not run out. -/
theorem decoded_of_notify (hmade : d.backend.registry.MadeBy kinds) {f : Finding} {target : σ}
    (hfound : (Finding.find d.backend.requests.nextSerial o).run d.backend.target =
      (.ok f, target))
    (hthread : ∀ thread, o.thread? = some thread → kinds thread = .thread)
    (hfits : f.detail.Fits kinds) (hmany : (d.backend.met o).length < 2 ^ 31)
    (hroom : (d.notify o).2.backend.registry.HasRoom) {packet : Bytes}
    (hqueued : (d.notify o).2.backend.queue = d.backend.queue ++ [packet]) :
    ∃ payload notices, d.Decoded o f packet payload notices := by
  have hof := Finding.of_found hfound
  obtain ⟨hkinds, written, hwritten, rfl, hregistry⟩ := written_of_queued hfound hqueued
  rw [hregistry] at hroom
  obtain ⟨hlearns, htold⟩ := hof.tells_composite hthread hfits hkinds hmany
    (.strongest ((d.backend.met o).map (·.policy))) d.backend.registry
  rw [← hwritten] at hlearns htold
  have huniform := hmade.uniform (hroom.of_later hlearns.later)
  obtain ⟨⟨policy, notices⟩, hread, rfl, htells⟩ := htold huniform hroom
  exact ⟨_, notices, rfl, hread.run_start, hregistry ▸ htells, hof, hkinds⟩

/-- The target has started, so that its first thread has an id. -/
def onExitsOfStarted : List (Happening InMemory) := .report (.vmStart ⟨5⟩) :: onExits

/-- The first of `twoThreads` leaves its method, with the second thread. -/
def atReturn : Occurrence :=
  .code ⟨⟨5⟩, ⟨2⟩, 0, none⟩ (.methodExit (.reference (.object .thread) (some ⟨6⟩)))

/-- Three requests are told, by an id that was handed out before and by new ones. -/
theorem decoded_of_return : ∃ b, Backend.new {} Backend.twoThreads = .ok b ∧
    ∃ f packet payload notices,
      (Debuggee.new (b.after onExitsOfStarted)).Decoded atReturn f packet payload notices ∧
      notices.length = 3 := by
  have hnew : Backend.new {} Backend.twoThreads = .ok _ := rfl
  refine ⟨_, hnew, ?_⟩
  let kinds : Handle → ObjectKind := fun h => if h = ⟨5⟩ ∨ h = ⟨6⟩ then .thread else .plain
  have hthreads : ∀ h, h = ⟨5⟩ ∨ h = ⟨6⟩ → (EntityKind.object .thread).Suits kinds h := by
    rintro h hh _ ⟨⟩
    exact Or.inr (if_pos hh).symm
  generalize hd : Debuggee.new (Backend.after _ onExitsOfStarted) = d
  have hmade : d.backend.registry.MadeBy kinds := by
    refine ⟨1, 1024, [.register ⟨5⟩ (.object .thread)], ?_, ?_⟩
    · rw [← hd]
      rfl
    · simp only [List.forall_mem_cons]
      exact ⟨.of_subject rfl (hthreads _ (Or.inl rfl)), nofun⟩
  have hdetail : ((Finding.find d.backend.requests.nextSerial atReturn).run
      d.backend.target).1.toOption.map (·.detail) =
        some (.returned (.reference (.object .thread) (some ⟨6⟩))) := by
    rw [← hd]
    decide +kernel
  rcases hfound : (Finding.find d.backend.requests.nextSerial atReturn).run d.backend.target with
    ⟨refusal | f, target⟩
  · rw [hfound] at hdetail
    exact absurd hdetail nofun
  rw [hfound] at hdetail
  have hreturned : f.detail = _ := Option.some.inj hdetail
  have hfits : f.detail.Fits kinds := by
    rw [hreturned]
    exact .reference fun x hx => hthreads x (Or.inr (Option.some.inj hx).symm)
  have hmet : (d.backend.met atReturn).length = 3 := by
    rw [← hd]
    decide +kernel
  have hqueued : (d.notify atReturn).2.backend.queue =
      d.backend.queue ++ [(d.notify atReturn).2.backend.queue.getLastD []] := by
    rw [← hd]
    decide +kernel
  obtain ⟨payload, notices, hdecoded⟩ := decoded_of_notify hmade hfound
    (by rintro _ ⟨⟩; rfl) hfits (by rw [hmet]; decide) (by rw [← hd]; decide +kernel) hqueued
  exact ⟨f, _, payload, notices, hdecoded, by rw [← hdecoded.tells.length_eq, hmet]⟩

end Debuggee
end DebugWire

import DebugWire.Proofs.Event.Asking
import DebugWire.Proofs.Session.Finding
import DebugWire.Proofs.Session.Untold

/-!
# Proofs/Session/Delivery — who is told of what

Whatever befell a backend, its requests have the ids under which they are installed, and remember no
event but those that were reported (`tidy_after`).  So a report tells exactly the requests that pass
the event on, in the order of kinds and ids, and suspends by the strongest of their policies
(`Delivery`).  It takes one packet, which is queued unless no one can ever read it; a report to a
dropped outlet still answers that someone was told (`told_though_dropped`).
-/

namespace DebugWire

variable {σ : Type}

/-! ## The strongest policy -/

namespace SuspendPolicy

theorem stronger_eq (a b : SuspendPolicy) : stronger a b = a ∨ stronger a b = b := by
  unfold stronger
  split
  · exact Or.inr rfl
  · exact Or.inl rfl

theorem number_le_foldl (a : SuspendPolicy) (ps : List SuspendPolicy) :
    a.number ≤ (ps.foldl stronger a).number ∧
      ∀ p ∈ ps, p.number ≤ (ps.foldl stronger a).number := by
  induction ps generalizing a with
  | nil => exact ⟨UInt8.le_refl _, nofun⟩
  | cons p ps ih =>
    obtain ⟨hstart, hrest⟩ := ih (stronger a p)
    refine ⟨UInt8.le_trans (number_le_stronger_left a p) hstart, fun q hq => ?_⟩
    obtain rfl | hq := List.mem_cons.mp hq
    · exact UInt8.le_trans (number_le_stronger_right a q) hstart
    · exact hrest q hq

theorem foldl_mem (a : SuspendPolicy) (ps : List SuspendPolicy) :
    ps.foldl stronger a ∈ a :: ps := by
  induction ps generalizing a with
  | nil => exact List.mem_cons_self
  | cons p ps ih =>
    have hmem := ih (stronger a p)
    rw [List.foldl_cons]
    obtain ha | hp := stronger_eq a p
    · rw [ha] at hmem ⊢
      exact List.mem_cons.mpr ((List.mem_cons.mp hmem).imp id (List.mem_cons_of_mem p))
    · rw [hp] at hmem ⊢
      exact List.mem_cons_of_mem a hmem

/-- None is stronger. -/
theorem number_le_strongest {ps : List SuspendPolicy} {p : SuspendPolicy} (h : p ∈ ps) :
    p.number ≤ (strongest ps).number := (number_le_foldl .none ps).2 p h

/-- **The strongest policy is one of them.** -/
theorem strongest_mem {ps : List SuspendPolicy} (h : ps ≠ []) : strongest ps ∈ ps := by
  obtain hnone | hmem := List.mem_cons.mp (foldl_mem .none ps)
  · -- then all of them are the weakest
    obtain ⟨p, hp⟩ := List.exists_mem_of_ne_nil _ h
    have hweak := number_le_strongest hp
    rw [strongest, hnone] at hweak ⊢
    cases p with
    | none => exact hp
    | eventThread | all => exact absurd hweak (by decide)
  · exact hmem

end SuspendPolicy

/-! ## What a packet lists -/

/-- The payload of a packet: a policy, a count, and one part for each hit, which begins with the
kind of the event and the id of the request. -/
def Lists (policy : SuspendPolicy) (hits : List Hit) (payload : Bytes) : Prop :=
  ∃ parts : List Bytes,
    payload = Bytes.ofUInt8 policy.number ++ Bytes.ofCount hits.length ++ parts.flatten ∧
    List.Forall₂
      (fun hit part => Bytes.ofUInt8 hit.kind.number ++ Bytes.ofInt32 hit.request <+: part)
      hits parts

/-- What is written one by one. -/
theorem forall₂_mapM {α β τ : Type} {x : α → StateM τ β} {Q : α → β → Prop}
    (h : ∀ a t, Q a ((x a).run t).1) (as : List α) (t : τ) :
    List.Forall₂ Q as ((as.mapM x).run t).1 := by
  induction as generalizing t with
  | nil => exact .nil
  | cons a as ih =>
    rw [List.mapM_cons]
    exact .cons (h a t) (ih _)

theorem Body.bytes_flatten (bodies : List Body) :
    Body.bytes bodies.flatten = (bodies.map Body.bytes).flatten := by
  induction bodies with
  | nil => rfl
  | cons body bodies ih =>
    rw [List.flatten_cons, bytes_append, ih, List.map_cons, List.flatten_cons]

theorem Finding.lists_composite (f : Finding) (policy : SuspendPolicy) (hits : List Hit)
    (r : Registry) : Lists policy hits (Body.bytes ((f.composite policy hits).run r).1) := by
  have hparts : List.Forall₂
      (fun hit body =>
        Bytes.ofUInt8 hit.kind.number ++ Bytes.ofInt32 hit.request <+: Body.bytes body)
      hits ((hits.mapM f.write).run r).1 := by
    refine forall₂_mapM (fun hit r => ?_) hits r
    change _ <+: Body.bytes (Body.plain _ ++ _ ++ _ ++ _)
    rw [Body.bytes_append, Body.bytes_append, Body.bytes_append, Body.bytes_plain,
      List.append_assoc, List.append_assoc]
    exact List.prefix_append _ _
  refine ⟨((hits.mapM f.write).run r).1.map Body.bytes, ?_, List.forall₂_map_right_iff.mpr hparts⟩
  have hrun : ((f.composite policy hits).run r).1 =
      .plain (Bytes.ofUInt8 policy.number ++ Bytes.ofCount hits.length) ++
        ((hits.mapM f.write).run r).1.flatten := rfl
  rw [hrun, Body.bytes_append, Body.bytes_plain, Body.bytes_flatten]

/-! ## The requests over a course of happenings -/

/-- The requests change by commands and reports, or are edited. -/
def Happening.Orderly : Happening σ → Prop
  | .elsewhere change => ∀ b : Backend σ, b.requests.Edit (change b).requests
  | _ => True

/-- How many reports are made. -/
def Happening.reports (hs : List (Happening σ)) : Nat :=
  hs.countP fun h => match h with | .report _ => true | _ => false

namespace Backend

/-- A command edits the requests, or leaves them alone. -/
theorem Settles.edit {b b' : Backend σ} {payload : Bytes} {c : Command}
    {r : Except CommandError Body} (h : b.Settles payload c r b') :
    b.requests.Edit b'.requests := by
  cases h with
  | calm | unread | suspend | resume | suspendThread | resumeThread | letGo => exact .kept
  | dispose => exact .clearAll
  | setRequest kind policy modifiers => exact .set kind policy modifiers
  | clearRequest kind id => exact .clear kind id
  | clearBreakpoints => exact .clearBreakpoints

/-- Nothing is asked for at the start. -/
theorem requests_of_new {settings : BackendSettings} {target : σ} {b : Backend σ}
    (hb : Backend.new settings target = .ok b) : b.requests = .empty := by
  unfold Backend.new at hb
  cases hvalid : settings.validate with
  | error e =>
    rw [hvalid] at hb
    cases hb
  | ok _ =>
    rw [hvalid] at hb
    obtain rfl := Except.ok.inj hb
    rfl

/-! ### What a delivery changes -/

section

variable (f : Finding) (hits : List Hit) (b : Backend σ)

theorem requests_deliver : (b.deliver f hits).2.requests = b.requests := by
  obtain ⟨registry, hdeliver⟩ := deliver_eq f hits b
  rw [hdeliver, enqueue_eq]

theorem suspension_deliver : (b.deliver f hits).2.suspension =
    b.suspension.apply (.strongest (hits.map (·.policy))) f.sighting.thread := by
  obtain ⟨registry, hdeliver⟩ := deliver_eq f hits b
  rw [hdeliver, enqueue_eq]

theorem queue_deliver : (b.deliver f hits).2.queue =
    if b.outlet = .dropped then b.queue
    else b.queue ++
      [CommandPacket.encode ⟨b.nextPacketId, 64, 100, (b.deliver f hits).1.bytes⟩] := by
  obtain ⟨registry, hdeliver⟩ := deliver_eq f hits b
  rw [hdeliver]
  split
  · next houtlet => simp [enqueue, houtlet]
  · next houtlet =>
    refine queue_enqueue ?_ _
    exact houtlet

theorem lists_deliver :
    Lists (.strongest (hits.map (·.policy))) hits (b.deliver f hits).1.bytes :=
  f.lists_composite _ hits b.registry

end

/-! ### Tidy requests -/

variable [Target σ] {b : Backend σ} {n : Nat}

/-- The requests, once the target has told what was to be known. -/
theorem requests_of_found {o : Occurrence} (hdisposed : ¬ b.disposed) {f : Finding} {target : σ}
    (hfound : (Finding.find b.requests.nextSerial o).run b.target = (.ok f, target)) :
    (b.announce o).2.requests = (b.requests.takeSerial.2.hitsOf f.sighting o.kinds).2 := by
  rw [announce_of_found hdisposed hfound rfl]
  split
  · rfl
  · exact requests_deliver _ _ _

/-- A report takes one serial at most. -/
theorem tidy_announce (h : b.requests.Tidy n) (o : Occurrence) :
    ∃ m ≤ n + 1, (b.announce o).2.requests.Tidy m := by
  by_cases hdisposed : b.disposed
  · rw [announce_of_disposed hdisposed]
    exact ⟨n, Nat.le_succ n, h⟩
  refine ⟨n + 1, Nat.le_refl _, ?_⟩
  rcases hfind : (Finding.find b.requests.nextSerial o).run b.target with ⟨refusal | f, target⟩
  · rw [announce_of_refused hdisposed hfind]
    exact h.takeSerial
  · rw [requests_of_found hdisposed hfind]
    exact h.asked (RequestTable.nextSerial_hitsOf _ _ _) (Finding.of_found hfind).sighting.serial
      (RequestTable.getElem?_hitsOf o.nodup_kinds)

/-- Whatever is no report edits the requests, or leaves them alone. -/
theorem edit_next {h : Happening σ} (horderly : h.Orderly) (hreport : ∀ o, h ≠ .report o) :
    b.requests.Edit (b.next h).2.requests := by
  cases h with
  | report o => exact absurd rfl (hreport o)
  | command known commandSet command payload =>
    rw [next_command]
    obtain hkept | ⟨c, -, hsettles⟩ := kept_or_settles b known commandSet command payload
    · rw [hkept]
      exact .kept
    · exact hsettles.edit
  | freed | swept | hungUp => exact .kept
  | disposed => exact .clearAll
  | connected =>
    obtain ⟨outlet, disposed, hnext⟩ := b.next_connected
    rw [hnext]
    exact .kept
  | elsewhere change => exact horderly b

theorem tidy_next (hb : b.requests.Tidy n) {h : Happening σ} (horderly : h.Orderly) :
    ∃ m ≤ n + Happening.reports [h], (b.next h).2.requests.Tidy m := by
  by_cases hreport : ∃ o, h = .report o
  · obtain ⟨o, rfl⟩ := hreport
    rw [next_report]
    exact tidy_announce hb o
  · have hedit := edit_next (b := b) horderly fun o ho => hreport ⟨o, ho⟩
    exact ⟨n, Nat.le_add_right _ _, hb.edit hedit⟩

/-- **The requests stay tidy** over any course of happenings. -/
theorem tidy_after {hs : List (Happening σ)} (horderly : ∀ h ∈ hs, h.Orderly)
    (hb : b.requests.Tidy n) :
    ∃ m ≤ n + Happening.reports hs, (b.after hs).requests.Tidy m := by
  induction hs generalizing b n with
  | nil => exact ⟨n, Nat.le_refl _, hb⟩
  | cons h hs ih =>
    obtain ⟨hfirst, hrest⟩ := List.forall_mem_cons.mp horderly
    obtain ⟨m, hm, htidy⟩ := tidy_next hb hfirst
    obtain ⟨m', hm', htidy'⟩ := ih hrest htidy
    have hcount : Happening.reports (h :: hs) = Happening.reports [h] + Happening.reports hs := by
      rw [Happening.reports, ← List.singleton_append, List.countP_append]
      rfl
    exact ⟨m', by omega, htidy'⟩

end Backend

/-! ## A report -/

namespace Debuggee

/-- What a report of an occurrence does, once the target has told `f`.  So many reports were made
before; `hits` are those that are met, and `policy` is put into force. -/
structure Delivery [Target σ] (reports : Nat) (d : Debuggee σ) (o : Occurrence) (f : Finding)
    (hits : List Hit) (policy : SuspendPolicy) : Prop where
  /-- What filters are shown is of the occurrence, as the target told it. -/
  found : Finding.Of d.backend.target d.backend.requests.nextSerial o f
  /-- One group for each kind that the occurrence is offered to, in their order. -/
  groups : ∃ groups, hits = groups.flatten ∧ List.Forall₂
    (fun kind group => d.backend.requests.Group { f.sighting with kind := kind } group)
    o.kinds groups
  /-- A request passes the event on exactly if it is enabled and all its filters accept the event,
  until the serials start over. -/
  accepts : reports < 2 ^ 64 → ∀ (id : Int32) (r : Request),
    d.backend.requests.byId[id]? = some r →
      ((r.ask { f.sighting with kind := r.kind }).1 = true ↔
        r.enabled ∧ ∀ m ∈ r.modifiers, m.accepts { f.sighting with kind := r.kind })
  /-- Somebody is met if a request of some kind passes the event on, and when the target starts or
  ends. -/
  met_iff : hits ≠ [] ↔
    (∃ kind ∈ o.kinds, ∃ r, d.backend.requests.Takes { f.sighting with kind := kind } r) ∨
      (∃ thread, o = .vmStart thread) ∨ o = .vmDeath
  /-- None of their policies is stronger. -/
  strongest : hits ≠ [] →
    policy ∈ hits.map (·.policy) ∧ ∀ hit ∈ hits, hit.policy.number ≤ policy.number
  /-- If nobody is met, nothing is queued or suspended. -/
  unmet : hits = [] → (d.notify o).2.backend.queue = d.backend.queue ∧
    (d.notify o).2.backend.suspension = d.backend.suspension
  suspension : hits ≠ [] →
    (d.notify o).2.backend.suspension = d.backend.suspension.apply policy o.thread?
  /-- One packet lists all who are met, and goes to the end of the queue. -/
  queue : hits ≠ [] → d.backend.outlet ≠ .dropped → ∃ payload, Lists policy hits payload ∧
    (d.notify o).2.backend.queue =
      d.backend.queue ++ [CommandPacket.encode ⟨d.backend.nextPacketId, 64, 100, payload⟩]
  /-- What no one can ever read is not queued. -/
  dropped : d.backend.outlet = .dropped → (d.notify o).2.backend.queue = d.backend.queue
  /-- The requests of these kinds were asked, and all others are as they were. -/
  requests : ∀ id : Int32, (d.notify o).2.backend.requests.byId[id]? =
    (d.backend.requests.byId[id]?).map (RequestTable.askedOf f.sighting o.kinds)
  /-- The answer is whether anyone was met, at once or after a wait. -/
  answer : d.backend.outlet ≠ .dropped →
    (d.notify o).1 = .returned (hits ≠ []) ∨
      ∃ token thread, (d.notify o).1 = .waits token ∧
        ⟨token, thread, hits ≠ []⟩ ∈ (d.notify o).2.waiting

variable [Target σ] {d : Debuggee σ} {o : Occurrence}

/-- A report leaves the backend that it makes, whether or not its thread waits. -/
theorem backend_notify (d : Debuggee σ) (o : Occurrence) :
    (d.notify o).2.backend = (d.backend.announce o).2 := by
  change _ = (d.backend.report o).2
  unfold notify
  rcases d.backend.report o with ⟨e | told, c⟩
  · rfl
  · simp only
    split
    · rfl
    · split <;> rfl

/-- A report that does not fail answers at once, or after a wait. -/
theorem answer_notify {told : Bool} (h : (d.backend.report o).1 = .ok told) :
    (d.notify o).1 = .returned told ∨
      ∃ token thread, (d.notify o).1 = .waits token ∧
        ⟨token, thread, told⟩ ∈ (d.notify o).2.waiting := by
  rcases hreport : d.backend.report o with ⟨e | told', c⟩
  · rw [hreport] at h
    exact absurd h nofun
  · rw [hreport] at h
    obtain rfl := Except.ok.inj h
    simp only [notify, hreport]
    split
    · exact Or.inl rfl
    · next thread hthread =>
      split
      · exact Or.inr ⟨_, thread, rfl, List.mem_append_right _ List.mem_cons_self⟩
      · exact Or.inl rfl

/-- Those that are met, by the requests as they were before the report took its serial. -/
theorem groups_met {t : RequestTable} {s : Sighting} (h : t.Keyed) (o : Occurrence) :
    ∃ groups, (t.takeSerial.2.hitsOf s o.kinds).1 = groups.flatten ∧
      List.Forall₂ (fun kind group => t.Group { s with kind := kind } group) o.kinds groups := by
  obtain ⟨groups, hflatten, hgroups⟩ :=
    RequestTable.groups_hitsOf (t := t.takeSerial.2) (s := s) h o.nodup_kinds
  refine ⟨groups, hflatten, hgroups.imp fun kind group hgroup => ⟨fun hit => ?_, hgroup.ascending⟩⟩
  have htakes : ∀ r, t.takeSerial.2.Takes { s with kind := kind } r ↔
      t.Takes { s with kind := kind } r := fun r =>
    ⟨fun h => ⟨h.installed, h.kind, h.asked⟩, fun h => ⟨h.installed, h.kind, h.asked⟩⟩
  rw [hgroup.mem_iff]
  simp only [htakes]

/-- Somebody is met if one of the groups is not empty. -/
theorem met_iff_of_groups {t : RequestTable} {s : Sighting} {kinds : List EventKind}
    {groups : List (List Hit)}
    (h : List.Forall₂ (fun kind group => t.Group { s with kind := kind } group) kinds groups) :
    groups.flatten ≠ [] ↔
      (∃ kind ∈ kinds, ∃ r, t.Takes { s with kind := kind } r) ∨
        ∃ kind ∈ kinds, kind.isUnsolicited := by
  induction h with
  | nil => simp
  | cons hgroup _ ih =>
    rw [List.flatten_cons, Ne, List.append_eq_nil_iff, not_and_or, ← Ne, ← Ne, ih,
      hgroup.ne_nil_iff]
    simp only [List.mem_cons, exists_eq_or_imp]
    exact or_or_or_comm

/-- The start and the end of the target are reported even if nobody asked. -/
theorem exists_unsolicited_iff (o : Occurrence) : (∃ kind ∈ o.kinds, kind.isUnsolicited) ↔
    (∃ thread, o = .vmStart thread) ∨ o = .vmDeath := by
  cases o with
  | code spot event =>
    cases event <;> simp [Occurrence.kinds, CodeEvent.kinds, EventKind.isUnsolicited]
  | _ => simp [Occurrence.kinds, EventKind.isUnsolicited]

/-- **Who is told of what**, at any moment of any course of happenings. -/
theorem delivery_of_notify {settings : BackendSettings} {target : σ} {b : Backend σ}
    (hnew : Backend.new settings target = .ok b) {hs : List (Happening σ)}
    (horderly : ∀ h ∈ hs, h.Orderly) (hd : d.backend = b.after hs)
    (hdisposed : ¬ d.backend.disposed) {f : Finding} {target' : σ}
    (hfound : (Finding.find d.backend.requests.nextSerial o).run d.backend.target =
      (.ok f, target')) :
    ∃ hits policy, d.Delivery (Happening.reports hs) o f hits policy := by
  have hof := Finding.of_found hfound
  have hempty : b.requests.Tidy 0 := Backend.requests_of_new hnew ▸ RequestTable.tidy_empty
  obtain ⟨n, hn, htidy⟩ := Backend.tidy_after horderly hempty
  rw [← hd] at htidy
  obtain ⟨groups, hflatten, hgroups⟩ := groups_met (s := f.sighting) htidy.keyed o
  rcases hasked : d.backend.requests.takeSerial.2.hitsOf f.sighting o.kinds with ⟨hits, requests⟩
  obtain rfl : hits = groups.flatten := by rw [← hflatten, hasked]
  have hannounce := Backend.announce_of_found hdisposed hfound hasked
  refine ⟨groups.flatten, .strongest (groups.flatten.map (·.policy)), ?_⟩
  constructor
  case found => exact hof
  case groups => exact ⟨groups, rfl, hgroups⟩
  case accepts =>
    intro hreports id r hr
    exact Request.ask_fst_of_fresh (htidy.fresh (by omega) hof.sighting.serial hr) rfl
  case met_iff => rw [met_iff_of_groups hgroups, exists_unsolicited_iff]
  case strongest =>
    intro hmet
    exact ⟨SuspendPolicy.strongest_mem (mt List.map_eq_nil_iff.mp hmet), fun hit hhit =>
      SuspendPolicy.number_le_strongest (List.mem_map_of_mem hhit)⟩
  case unmet =>
    intro hnone
    rw [backend_notify, hannounce, if_pos (List.isEmpty_iff.mpr hnone)]
    exact ⟨rfl, rfl⟩
  case suspension =>
    intro hmet
    rw [backend_notify, hannounce, if_neg (mt List.isEmpty_iff.mp hmet)]
    rw [Backend.suspension_deliver, hof.sighting.thread]
  case queue =>
    intro hmet houtlet
    rw [backend_notify, hannounce, if_neg (mt List.isEmpty_iff.mp hmet)]
    exact ⟨_, Backend.lists_deliver _ _ _, (Backend.queue_deliver _ _ _).trans (if_neg houtlet)⟩
  case dropped =>
    intro houtlet
    rw [backend_notify, hannounce]
    split
    · rfl
    · exact (Backend.queue_deliver _ _ _).trans (if_pos houtlet)
  case requests =>
    intro id
    rw [backend_notify, Backend.requests_of_found hdisposed hfound]
    exact RequestTable.getElem?_hitsOf o.nodup_kinds id
  case answer =>
    intro _
    have hreport : (d.backend.report o).1 = (d.backend.announce o).1.map Option.isSome := rfl
    refine answer_notify ?_
    rw [hreport, hannounce]
    split
    · next hnone =>
      rw [List.isEmpty_iff.mp hnone]
      rfl
    · next hmet =>
      exact congrArg Except.ok (decide_eq_true (mt List.isEmpty_iff.mpr hmet)).symm

/-- A debugger asks twice to be told of method exits, and once of the values that they return. -/
def onExits : List (Happening InMemory) :=
  [.connected, .command Command.all 15 1 [42, 2, 0, 0, 0, 0],
    .command Command.all 15 1 [41, 1, 0, 0, 0, 0], .command Command.all 15 1 [41, 0, 0, 0, 0, 0]]

/-- The first of `twoThreads` leaves its method, with a number. -/
def atExit : Occurrence := .code ⟨⟨5⟩, ⟨2⟩, 0, none⟩ (.methodExit (.primitive (.int 7)))

/-- One packet tells all three, the oldest of them last. -/
theorem delivery_of_exit : ∃ b, Backend.new {} Backend.twoThreads = .ok b ∧
    ∃ f hits policy, (Debuggee.new (b.after onExits)).Delivery 0 atExit f hits policy ∧
      ((Debuggee.new (b.after onExits)).notify atExit).1 = .waits 1 ∧
      ((Debuggee.new (b.after onExits)).notify atExit).2.backend.queue.length = 1 := by
  have hnew : Backend.new {} Backend.twoThreads = .ok _ := rfl
  refine ⟨_, hnew, ?_⟩
  generalize hd : Debuggee.new (Backend.after _ onExits) = d
  have hbackend : d.backend = Backend.after _ onExits := congrArg Debuggee.backend hd.symm
  have hfound :
      ((Finding.find d.backend.requests.nextSerial atExit).run d.backend.target).1.isOk := by
    rw [hbackend]
    decide +kernel
  rcases hfind : (Finding.find d.backend.requests.nextSerial atExit).run d.backend.target with
    ⟨refusal | f, target⟩
  · rw [hfind] at hfound
    exact absurd hfound Bool.false_ne_true
  obtain ⟨hits, policy, hdelivery⟩ := delivery_of_notify hnew
    (by simp [onExits, Happening.Orderly]) hbackend (by rw [hbackend]; decide +kernel) hfind
  exact ⟨f, hits, policy, hdelivery, by rw [← hd]; decide +kernel, by rw [← hd]; decide +kernel⟩

/-- **A packet that no one can ever read** is lost, and the report answers that someone was told. -/
theorem told_though_dropped : ∃ b, Backend.new {} Backend.twoThreads = .ok b ∧
    let d := Debuggee.new (b.after [.elsewhere Backend.dropOutlet])
    ¬ d.backend.disposed ∧
      ((Finding.find d.backend.requests.nextSerial (.vmStart ⟨5⟩)).run d.backend.target).1.isOk ∧
      (d.notify (.vmStart ⟨5⟩)).1 = .returned true ∧
      (d.notify (.vmStart ⟨5⟩)).2.backend.queue = d.backend.queue :=
  ⟨_, rfl, by decide +kernel⟩

end Debuggee
end DebugWire

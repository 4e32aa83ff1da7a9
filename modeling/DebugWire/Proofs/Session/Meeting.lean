import DebugWire.Proofs.Session.Finding
import DebugWire.Proofs.Session.Report
import DebugWire.Session.Meanwhile

/-!
# Proofs/Session/Meeting — whom a report meets, and what it does

The requests that an occurrence meets are `Backend.met`.  If there are none, a report changes the
target and how the requests count; otherwise it is delivered to all of them (`Backend.Announces`).
Whatever is true of each installed request, and stays true of one that is asked, is true of those
that are met (`Backend.Announces.from_installed`).
-/

namespace DebugWire

variable {σ : Type}

/-! ## Installed requests -/

namespace RequestTable

/-- Every installed request has a property. -/
def All (P : Request → Prop) (t : RequestTable) : Prop :=
  ∀ (id : Int32) (r : Request), t.byId[id]? = some r → P r

/-- A hit is a request with a property, or what is reported even if nobody asked. -/
def From (P : Request → Prop) (h : Hit) : Prop :=
  (∃ r, P r ∧ h = ⟨r.id, r.kind, r.policy⟩) ∨ h = ⟨0, h.kind, .none⟩

variable {P Q : Request → Prop} {t : RequestTable}

theorem All.mono (h : t.All P) (himp : ∀ r, P r → Q r) : t.All Q :=
  fun id r hr => himp r (h id r hr)

theorem all_clearAll : t.clearAll.All P := fun id r hr => by simp [clearAll] at hr

/-- Only the request that comes in has to be looked at. -/
theorem All.set (h : t.All P) {kind : EventKind} {policy : SuspendPolicy}
    {modifiers : List Modifier} (hnew : P (.new t.nextId kind policy modifiers)) :
    (t.set kind policy modifiers).2.All P := by
  intro id r hr
  simp only [RequestTable.set, Std.TreeMap.getElem?_insert] at hr
  split at hr
  · exact Option.some.inj hr ▸ hnew
  · exact h id r hr

/-- Clearing takes away at most. -/
theorem All.clear (h : t.All P) (kind : EventKind) (id : Int32) : (t.clear kind id).2.All P := by
  intro id' r hr
  unfold RequestTable.clear at hr
  split at hr
  · simp only [Std.TreeMap.getElem?_erase] at hr
    split at hr
    · cases hr
    · exact h id' r hr
  · exact h id' r hr

theorem All.clearBreakpoints (h : t.All P) : t.clearBreakpoints.2.All P := by
  intro id r hr
  simp only [RequestTable.clearBreakpoints, Std.TreeMap.getElem?_filter',
    Option.filter_eq_some_iff] at hr
  exact h id r hr.1

theorem All.takeSerial (h : t.All P) : t.takeSerial.2.All P := h

/-! ### Asking -/

/-- A request answers as it was when it was asked. -/
theorem All.from_ask (h : t.All P) {s : Sighting} {hit : Hit} (hhit : hit ∈ (t.ask s).1) :
    From P hit := by
  obtain ⟨⟨id, r⟩, hr, hmet⟩ := List.mem_filterMap.mp hhit
  simp only at hmet
  split at hmet
  · exact Or.inl ⟨r, h id r (Std.TreeMap.mem_toList_iff_getElem?_eq_some.mp hr),
      (Option.some.inj hmet).symm⟩
  · cases hmet

theorem All.from_hits (h : t.All P) {s : Sighting} {kind : EventKind} {hit : Hit}
    (hhit : hit ∈ (t.hits s kind).1) : From P hit := by
  unfold hits at hhit
  simp only at hhit
  split at hhit
  · obtain rfl := List.mem_singleton.mp hhit
    exact Or.inr rfl
  · exact h.from_ask hhit

variable (hP : ∀ s r, P r → P (r.ask s).2)

include hP

/-- A request that was asked is installed with what is left of it. -/
theorem All.ask (h : t.All P) (s : Sighting) : (t.ask s).2.All P := by
  intro id r hr
  simp only [RequestTable.ask, Std.TreeMap.getElem?_map, Option.map_eq_some_iff] at hr
  obtain ⟨r', hr', rfl⟩ := hr
  split
  · exact hP s r' (h id r' hr')
  · exact h id r' hr'

theorem All.hits (h : t.All P) (s : Sighting) (kind : EventKind) : (t.hits s kind).2.All P :=
  h.ask hP { s with kind := kind }

theorem All.hitsOf (h : t.All P) (s : Sighting) (kinds : List EventKind) :
    (t.hitsOf s kinds).2.All P := by
  induction kinds generalizing t with
  | nil => exact h
  | cons kind kinds ih => exact ih (h.hits hP s kind)

/-- A later kind is asked of what the earlier kinds left. -/
theorem All.from_hitsOf (h : t.All P) {s : Sighting} {kinds : List EventKind} {hit : Hit}
    (hhit : hit ∈ (t.hitsOf s kinds).1) : From P hit := by
  induction kinds generalizing t with
  | nil => exact absurd hhit List.not_mem_nil
  | cons kind kinds ih =>
    obtain hfirst | hrest := List.mem_append.mp hhit
    · exact h.from_hits hfirst
    · exact ih (h.hits hP s kind) hrest

end RequestTable

/-! ## Reports -/

namespace Backend

section

variable [Target σ]

/-- The requests that an occurrence meets, as it would be reported now. -/
def met (o : Occurrence) (b : Backend σ) : List Hit :=
  if b.disposed then []
  else
    match ((Finding.find b.requests.nextSerial o).run b.target).1 with
    | .error _ => []
    | .ok f => (b.requests.takeSerial.2.hitsOf f.sighting o.kinds).1

/-- What a report makes of a backend: those it meets, its answer, and the backend afterwards. -/
inductive Announces (b : Backend σ) (o : Occurrence) :
    List Hit → Except CommandError (Option Body) → Backend σ → Prop where
  | disposed (h : b.disposed) : Announces b o [] (.ok none) b
  /-- The target does not tell what is to be reported. -/
  | failed (h : ¬ b.disposed) (e : TargetError) (target : σ) :
      Announces b o [] (.error (.ofTarget e))
        { b with requests := b.requests.takeSerial.2, target := target }
  /-- Nobody is met. -/
  | unmet (h : ¬ b.disposed) (s : Sighting) {requests : RequestTable} (target : σ)
      (hasked : b.requests.takeSerial.2.hitsOf s o.kinds = ([], requests)) :
      Announces b o [] (.ok none) { b with requests := requests, target := target }
  /-- Those who are met are told. -/
  | told (h : ¬ b.disposed) (f : Finding) (hthread : f.sighting.thread = o.thread?)
      {hits : List Hit} {requests : RequestTable} (target : σ)
      (hasked : b.requests.takeSerial.2.hitsOf f.sighting o.kinds = (hits, requests))
      (hhits : hits ≠ []) {c : Backend σ}
      (hc : c = { b with requests := requests, target := target }) :
      Announces b o hits (.ok (some (c.deliver f hits).1)) (c.deliver f hits).2

/-- **What a report makes of a backend.** -/
theorem announces (o : Occurrence) (b : Backend σ) :
    b.Announces o (b.met o) (b.announce o).1 (b.announce o).2 := by
  by_cases hdisposed : b.disposed
  · rw [met, announce, if_pos hdisposed, if_pos hdisposed]
    exact .disposed hdisposed
  rw [met, announce, if_neg hdisposed, if_neg hdisposed]
  simp only [RequestTable.takeSerial]
  rcases hfound : (Finding.find b.requests.nextSerial o).run b.target with ⟨e | f, target⟩
  · exact .failed hdisposed e target
  have hthread := (Finding.of_found hfound).sighting.thread
  rcases hasked : b.requests.takeSerial.2.hitsOf f.sighting o.kinds with ⟨hits, requests⟩
  simp only [RequestTable.takeSerial] at hasked
  simp only [hasked]
  by_cases hnone : hits.isEmpty
  · obtain rfl := List.isEmpty_iff.mp hnone
    exact .unmet hdisposed f.sighting target hasked
  · rw [if_neg hnone]
    exact .told hdisposed f hthread target hasked (mt List.isEmpty_iff.mpr hnone) rfl

/-- Nobody is met after the session was disposed. -/
theorem met_of_disposed {b : Backend σ} (h : b.disposed) (o : Occurrence) : b.met o = [] := if_pos h

theorem announce_of_disposed {b : Backend σ} (h : b.disposed) (o : Occurrence) :
    b.announce o = (.ok none, b) := if_pos h

end

/-! ### What a report changes -/

/-- A queued packet is all that changes. -/
theorem enqueue_eq (b : Backend σ) (packet : Bytes) :
    b.enqueue packet = { b with queue := (b.enqueue packet).queue } := by
  unfold enqueue
  split <;> rfl

/-- A delivery registers ids, suspends, and queues one packet. -/
theorem deliver_eq (f : Finding) (hits : List Hit) (b : Backend σ) :
    ∃ registry, (b.deliver f hits).2 = enqueue
      { b with
        registry := registry
        nextPacketId := b.nextPacketId + 1
        suspension := b.suspension.apply (.strongest (hits.map (·.policy))) f.sighting.thread }
      (CommandPacket.encode ⟨b.nextPacketId, 64, 100, (b.deliver f hits).1.bytes⟩) :=
  ⟨_, rfl⟩

/-- The packets in which an answer is told. -/
def packets (id : UInt32) : Except CommandError (Option Body) → List Bytes
  | .ok (some body) => [CommandPacket.encode ⟨id, 64, 100, body.bytes⟩]
  | _ => []

namespace Announces

variable {o : Occurrence} {hits : List Hit} {r : Except CommandError (Option Body)}
  {b b' : Backend σ}

/-- The table, the requests, the target and the packets apart, a report changes what is
suspended. -/
theorem session (h : Announces b o hits r b') :
    b' = { b with
      target := b'.target
      registry := b'.registry
      requests := b'.requests
      nextPacketId := b'.nextPacketId
      queue := b'.queue
      suspension := b.suspension.apply (.strongest (hits.map (·.policy))) o.thread? } := by
  cases h with
  | disposed | failed | unmet => rfl
  | told h f hthread target hasked hhits hc =>
    obtain ⟨registry, hdeliver⟩ := deliver_eq f hits _
    rw [hdeliver, enqueue_eq, hthread, hc]

/-- **The strongest policy among the hits is applied once.** -/
theorem suspension (h : Announces b o hits r b') :
    b'.suspension = b.suspension.apply (.strongest (hits.map (·.policy))) o.thread? := by
  rw [h.session]

/-- Nobody is met by what cannot be told. -/
theorem hits_of_error {e : CommandError} (h : Announces b o hits (.error e) b') : hits = [] := by
  cases h
  rfl

/-- What is told is composed for those who are met. -/
theorem told_eq {body : Body} (h : Announces b o hits (.ok (some body)) b') :
    ∃ f : Finding, body =
      ((f.composite (.strongest (hits.map (·.policy))) hits).run b.registry).1 := by
  cases h with
  | told h f hthread target hasked hhits hc => exact ⟨f, by rw [hc]; rfl⟩

/-- Nothing but what is told is queued. -/
theorem queue_sublist (h : Announces b o hits r b') :
    b'.queue.Sublist (b.queue ++ packets b.nextPacketId r) := by
  cases h with
  | disposed | failed | unmet => exact List.sublist_append_left _ _
  | told h f hthread target hasked hhits hc =>
    obtain ⟨registry, hdeliver⟩ := deliver_eq f hits _
    rw [hdeliver, hc, enqueue]
    split
    · exact List.sublist_append_left _ _
    · exact List.Sublist.refl _

/-- Packets that wait are left where they are. -/
theorem keeps_queue (h : Announces b o hits r b') : b.queue <+: b'.queue := by
  cases h with
  | disposed | failed | unmet => exact List.prefix_rfl
  | told h f hthread target hasked hhits hc =>
    obtain ⟨registry, hdeliver⟩ := deliver_eq f hits _
    rw [hdeliver, hc, enqueue]
    split
    · exact List.prefix_rfl
    · exact List.prefix_append _ _

/-- A report does not touch how the session was set up. -/
theorem settings (h : Announces b o hits r b') : b'.settings = b.settings := by
  rw [h.session]

variable {P : Request → Prop} (hP : ∀ s r, P r → P (r.ask s).2)

include hP

/-- A report asks the requests, and does no more to them. -/
theorem requests (h : Announces b o hits r b') (hb : b.requests.All P) : b'.requests.All P := by
  cases h with
  | disposed | failed => exact hb
  | unmet h s target hasked =>
    have hall := hb.takeSerial.hitsOf hP s o.kinds
    rwa [hasked] at hall
  | told h f hthread target hasked hhits hc =>
    have hall := hb.takeSerial.hitsOf hP f.sighting o.kinds
    rw [hasked] at hall
    obtain ⟨registry, hdeliver⟩ := deliver_eq f hits _
    rwa [hdeliver, enqueue_eq, hc]

/-- **Who is met is an installed request**, or nobody asked. -/
theorem from_installed (h : Announces b o hits r b') (hb : b.requests.All P) :
    ∀ hit ∈ hits, RequestTable.From P hit := by
  cases h with
  | disposed | failed | unmet => exact nofun
  | told h f hthread target hasked hhits hc =>
    intro hit hhit
    have hmet : hit ∈ (b.requests.takeSerial.2.hitsOf f.sighting o.kinds).1 := by rwa [hasked]
    exact RequestTable.All.from_hitsOf hP hb.takeSerial hmet

end Announces
end Backend

/-- The target reports an occurrence while a connection is served. -/
def Meanwhile.report [Target σ] (o : Occurrence) : Meanwhile σ where
  change b := (b.report o).2
  keeps_queue b := (b.announces o).keeps_queue
  settings_eq b := (b.announces o).settings

end DebugWire

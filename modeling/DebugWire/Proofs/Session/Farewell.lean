import DebugWire.Proofs.Session.Attended
import DebugWire.Proofs.Session.FrameHold

/-!
# Proofs/Session/Farewell — what a disposed session leaves behind

After a session was disposed its ids are refused for good, its requests are never named again,
nothing is suspended, and nothing is reported before the next debugger connects
(`Backend.parted_of_dispose`).  What it does leave is the packets that still wait: the next debugger
gets them, ids of the old session and all (`Backend.delivers_disposed`).  Whatever else is written
to that connection was composed since, also while it was served (`Parted.writtenWhile`).
-/

namespace DebugWire

variable {σ : Type}

/-! ## Requests since -/

namespace Backend

/-- A command leaves the requests that there were, and the one that it sets. -/
theorem Settles.requests {b b' : Backend σ} {payload : Bytes} {c : Command}
    {r : Except CommandError Body} (h : b.Settles payload c r b') {ids : List Int32}
    (hall : b.requests.All (·.id ∈ ids)) : b'.requests.All fun request =>
      request.id ∈ ids ++ if c = .setRequest ∧ r.isOk then [b.requests.nextId] else [] := by
  have hmono : b.requests.All fun request =>
      request.id ∈ ids ++ if c = .setRequest ∧ r.isOk then [b.requests.nextId] else [] :=
    hall.mono fun _ => List.mem_append_left _
  cases h with
  | calm | unread | suspend | resume | suspendThread | resumeThread | letGo => exact hmono
  | dispose => exact RequestTable.all_clearAll
  | setRequest kind policy modifiers =>
    exact hmono.set (List.mem_append_right _ (List.mem_singleton_self _))
  | clearRequest kind id => exact hmono.clear kind id
  | clearBreakpoints => exact hmono.clearBreakpoints

variable [Target σ] {b c d : Backend σ} {h : Happening σ} {hs later : List (Happening σ)}

/-- The ids of the requests that a step sets. -/
def installs (b : Backend σ) : Happening σ → List Int32
  | .command known commandSet command payload =>
      if b.carries? known commandSet command = some .setRequest ∧
          (b.run known commandSet command payload).1.isOk then [b.requests.nextId]
      else []
  | _ => []

theorem installed_next (hregular : h.Regular) {ids : List Int32}
    (hall : b.requests.All (·.id ∈ ids)) :
    (b.next h).2.requests.All (·.id ∈ ids ++ b.installs h) := by
  have hmono {c : Backend σ} (hkept : c.requests.All (·.id ∈ ids)) :
      c.requests.All (·.id ∈ ids ++ b.installs h) := hkept.mono fun _ => List.mem_append_left _
  obtain hidle | rfl | rfl | rfl | ⟨known, commandSet, command, payload, rfl⟩ := hregular.idle_or
  · exact hmono (requests_next (fun _ _ hid => by rwa [Request.id_ask]) hidle hall)
  · exact RequestTable.all_clearAll
  · obtain ⟨outlet, disposed, hnext⟩ := b.next_connected
    exact hmono (by rwa [hnext])
  · exact hmono hall
  · rw [next_command]
    obtain hkept | ⟨c, hcarries, hsettles⟩ := b.kept_or_settles known commandSet command payload
    · refine hmono ?_
      rwa [hkept]
    · rw [installs, hcarries]
      simpa using hsettles.requests hall

theorem installed_after (hregular : ∀ h ∈ hs, h.Regular) {ids : List Int32}
    (hall : b.requests.All (·.id ∈ ids)) :
    (b.after hs).requests.All (·.id ∈ ids ++ b.gather installs hs) := by
  induction hs generalizing b ids with
  | nil => rwa [gather, List.append_nil]
  | cons h hs ih =>
    obtain ⟨hh, hhs⟩ := List.forall_mem_cons.mp hregular
    rw [after_cons, gather, ← List.append_assoc]
    exact ih hhs (installed_next hh hall)

/-! ## Until the next debugger connects -/

/-- Only a new connection begins a session. -/
theorem disposed_of_unserved (hregular : h.Regular) (hunserved : h ≠ .connected)
    (hdisposed : b.disposed) : (b.next h).2.disposed := by
  obtain hidle | rfl | rfl | rfl | ⟨known, commandSet, command, payload, rfl⟩ := hregular.idle_or
  · rwa [disposed_next hidle]
  · rfl
  · exact absurd rfl hunserved
  · exact hdisposed
  · rw [next_command]
    obtain hkept | ⟨c, -, hsettles⟩ := b.kept_or_settles known commandSet command payload
    · rwa [hkept]
    · exact hsettles.disposed hdisposed

theorem disposed_after (hregular : ∀ h ∈ hs, h.Regular) (hunserved : ∀ h ∈ hs, h ≠ .connected)
    (hdisposed : b.disposed) : (b.after hs).disposed := by
  induction hs generalizing b with
  | nil => exact hdisposed
  | cons h hs ih =>
    obtain ⟨hh, hhs⟩ := List.forall_mem_cons.mp hregular
    obtain ⟨hstays, hstay⟩ := List.forall_mem_cons.mp hunserved
    exact ih hhs hstay (disposed_of_unserved hh hstays hdisposed)

/-- A report to a disposed session returns at once, and nothing comes of it. -/
theorem notify_of_disposed {w : Debuggee σ} (hdisposed : w.backend.disposed) (o : Occurrence) :
    w.notify o = (.returned false, { w with reports := w.reports + 1 }) := by
  rw [Debuggee.notify, report, announce_of_disposed hdisposed]
  simp only [Except.map, Option.isSome_none, hdisposed, Bool.not_true, Bool.false_eq_true,
    and_false, if_false]
  cases o.thread? <;> rfl

/-! ## A disposed session -/

/-- That two sessions are apart: `d` is the backend of the one when it is disposed, `c` comes of
that, and then things happen. -/
structure Parted (d c : Backend σ) (later : List (Happening σ)) : Prop where
  /-- No id that was issued before stands for anything. -/
  forgotten : ∀ id ∈ d.registry.issuedIds, ∀ kind,
    (c.after later).registry.resolve id kind = .error (.invalidId kind id)
  /-- A packet is composed for requests that were set since, or for nobody. -/
  named : ∀ o body, ((c.after later).announce o).1 = .ok (some body) →
    ∃ (f : Finding) (hits : List Hit), body = ((f.composite (.strongest (hits.map (·.policy)))
        hits).run (c.after later).registry).1 ∧
      ∀ hit ∈ hits, hit.request ∈ c.gather installs later ∨ hit = ⟨0, hit.kind, .none⟩
  /-- Nothing is suspended, as long as nobody is connected. -/
  free : (∀ h ∈ later, h.Idle) → (c.after later).suspension.Free
  /-- Before the next debugger connects, a report does nothing. -/
  silent : (∀ h ∈ later, h ≠ .connected) → ∀ (w : Debuggee σ) (o : Occurrence),
    w.backend = c.after later →
      w.notify o = (.returned false, { w with reports := w.reports + 1 })
  /-- Event packets that are written to a connection were composed since, or waited already. -/
  written : ∀ inbound out shutdown,
    Outbound.Wrote (fun p => p ∈ c.gather composes later ∨ p ∈ d.queue ∨ IsReply p) False out
      ((c.after later).serve inbound out shutdown).2.2
  /-- If other things happen while it is served, these are part of what happened since. -/
  writtenWhile : ∀ schedule : List (Moment σ), (∀ m ∈ schedule, m.Regular) → ∀ inbound out,
    ∃ during, (∀ h ∈ during, h.Regular) ∧
      ((c.after later).serveWhile schedule inbound out).2.1 = c.after (later ++ during) ∧
      Outbound.Wrote
        (fun p => p ∈ c.gather composes (later ++ during) ∨ p ∈ d.queue ∨ IsReply p) False out
        ((c.after later).serveWhile schedule inbound out).2.2

theorem resolve_of_dispose (hd : d.registry.WellFormed)
    (hroom : (d.dispose.after later).registry.HasRoom) {id : WireId}
    (hid : id ∈ d.registry.issuedIds) (kind : EntityKind) :
    (d.dispose.after later).registry.resolve id kind = .error (.invalidId kind id) := by
  have hlater := follows_after later d.dispose
  have hstep := follows_next d .disposed
  have hroom' := hroom.of_later hlater.later
  have hissued := (Registry.mem_issuedIds (hroom'.of_later hstep.later)).mp hid
  have hdead : (d.dispose.after later).registry.live? id = none := by
    rw [Option.eq_none_iff_forall_ne_some]
    intro e he
    obtain ⟨x, hx, -⟩ := hlater.keeps (hstep.wellFormed hd hroom') hroom id e he
      (hissued.of_later hstep.later)
    rw [dispose, hd.live?_disposeAll] at hx
    cases hx
  rw [Registry.resolve, hdead]

theorem Parted.of_dispose (hd : d.registry.WellFormed) (hregular : ∀ h ∈ later, h.Regular)
    (hroom : (d.dispose.after later).registry.HasRoom) : d.Parted d.dispose later where
  forgotten _ hid kind := resolve_of_dispose hd hroom hid kind
  named o body hbody := by
    have hannounces := (d.dispose.after later).announces o
    have hinstalled : (d.dispose.after later).requests.All
        (·.id ∈ [] ++ d.dispose.gather installs later) :=
      installed_after hregular RequestTable.all_clearAll
    rw [hbody] at hannounces
    obtain ⟨f, hf⟩ := hannounces.told_eq
    refine ⟨f, _, hf, fun hit hhit => ?_⟩
    obtain ⟨r, hr, rfl⟩ | hnobody := hannounces.from_installed
      (fun _ _ hid => by rwa [Request.id_ask]) hinstalled hit hhit
    · exact Or.inl hr
    · exact Or.inr hnobody
  free hidle := by
    have hnever := always_of_kept (P := (·.disposed)) (b := d.dispose)
      (fun _ _ hh hb => (disposed_next hh).trans hb) (fun _ _ => not_halts_of_disposed) hidle rfl
    exact (free_after_iff hidle Suspension.free_none).mpr hnever
  silent hunserved w o hw := by
    refine notify_of_disposed ?_ o
    rw [hw]
    exact disposed_after hregular hunserved rfl
  written inbound out shutdown := by
    refine (wrote_serve inbound out shutdown _).imp fun p hp => ?_
    obtain hqueue | hreply := hp
    · obtain hwaited | hsince := List.mem_append.mp ((queue_after hregular).subset hqueue)
      · exact Or.inr (Or.inl hwaited)
      · exact Or.inl hsince
    · exact Or.inr (Or.inr hreply)
  writtenWhile schedule hmoments inbound out := by
    obtain ⟨during, hcourse⟩ := course_of_serveWhile hmoments inbound out (d.dispose.after later)
    refine ⟨during, hcourse.regular, ?_, hcourse.wrote.imp fun p hp => ?_⟩
    · rw [after_append, hcourse.after]
    obtain hwaits | hreply := hp
    · have hqueue := (queue_after (b := d.dispose) hregular).append_right
        ((d.dispose.after later).gather composes during)
      rw [List.append_assoc, ← gather_append] at hqueue
      obtain hwaited | hsince := List.mem_append.mp (hqueue.subset hwaits)
      · exact Or.inr (Or.inl hwaited)
      · exact Or.inl hsince
    · exact Or.inr (Or.inr hreply)

section Dispose

variable {known : List Command} {commandSet command : UInt8} {payload : Bytes}

theorem next_dispose (hcarries : d.carries? known commandSet command = some .dispose) :
    (d.next (.command known commandSet command payload)).2 = d.dispose := by
  rw [next_command, run_of_carries hcarries]
  rfl

/-- **A disposed session leaves nothing behind but the packets that wait.** -/
theorem parted_of_dispose {settings : BackendSettings} {target : σ}
    (hnew : Backend.new settings target = .ok b) {before : List (Happening σ)}
    (hcarries : (b.after before).carries? known commandSet command = some .dispose)
    (hregular : ∀ h ∈ later, h.Regular)
    (hroom : (b.after
      (before ++ .command known commandSet command payload :: later)).registry.HasRoom) :
    (b.after before).Parted (b.after (before ++ [.command known commandSet command payload]))
      later := by
  have hb : b.registry.WellFormed := registry_of_new hnew ▸ Registry.WellFormed.new _ _
  have hwf := (follows_after before b).wellFormed hb (room_after hroom)
  rw [after_append, after_cons, next_dispose hcarries] at hroom
  rw [after_snoc, next_dispose hcarries]
  exact .of_dispose hwf hregular hroom

end Dispose

/-- A debugger wants to be told of threads that start, and one does. -/
def tellStarts : List (Happening InMemory) :=
  [.connected, .command Command.all 15 1 [6, 0, 0, 0, 0, 0], .report (.threadStart ⟨7⟩)]

/-- The debugger ends the session. -/
def endSession : Happening InMemory := .command Command.all 1 6 []

/-- A thread starts while a connection is served, which is then shut down. -/
def startAndShutDown : List (Moment InMemory) :=
  [⟨.report (.threadStart ⟨8⟩), false⟩, ⟨.nothing _, true⟩]

/-- The next session wants the same.  Its request is the second, and its name of the thread too.
What it is served may be interrupted by the start of a thread. -/
theorem parted_of_dispose_again : ∃ b : Backend InMemory,
    Backend.new {} InMemory.new = .ok b ∧ (b.after tellStarts).registry.issuedIds = [⟨1⟩] ∧
    (b.after (tellStarts ++ [endSession])).gather installs (.hungUp :: tellStarts) = [2] ∧
    (b.after tellStarts).Parted (b.after (tellStarts ++ [endSession])) (.hungUp :: tellStarts) ∧
    ∀ m ∈ startAndShutDown, m.Regular := by
  have hruns : ∀ b, Backend.new {} InMemory.new = .ok b →
      (b.after tellStarts).registry.issuedIds = [⟨1⟩] ∧
      (b.after (tellStarts ++ [endSession])).gather installs (.hungUp :: tellStarts) = [2] := by
    rintro b ⟨rfl⟩
    decide +kernel
  have hnew : Backend.new {} InMemory.new = .ok _ := rfl
  obtain ⟨hissued, hinstalled⟩ := hruns _ hnew
  refine ⟨_, hnew, hissued, hinstalled, parted_of_dispose hnew ?_ ?_ ?_, ?_⟩
  · decide +kernel
  · simp [tellStarts, Happening.Regular]
  · decide +kernel
  · exact List.forall_mem_cons.mpr ⟨Meanwhile.regular_report _,
      List.forall_mem_singleton.mpr Meanwhile.regular_nothing⟩

/-- The packet of the session that was ended is written to the next connection. -/
theorem delivers_disposed : ∃ b : Backend InMemory, Backend.new {} InMemory.new = .ok b ∧
    (b.gather composes tellStarts).length = 1 ∧
    ((b.after (tellStarts ++ [endSession, .hungUp])).serve ⟨[], [], 0⟩ ⟨[], [], none, 0⟩
      false).2.2.written = (b.gather composes tellStarts).flatten := by
  have hruns : ∀ b, Backend.new {} InMemory.new = .ok b →
      (b.gather composes tellStarts).length = 1 ∧
      ((b.after (tellStarts ++ [endSession, .hungUp])).serve ⟨[], [], 0⟩ ⟨[], [], none, 0⟩
        false).2.2.written = (b.gather composes tellStarts).flatten := by
    rintro b ⟨rfl⟩
    decide +kernel
  have hnew : Backend.new {} InMemory.new = .ok _ := rfl
  exact ⟨_, hnew, hruns _ hnew⟩

end Backend
end DebugWire

import DebugWire.Proofs.Session.Deeds
import DebugWire.Proofs.Session.Meeting
import DebugWire.Proofs.Stream.Format

/-!
# Proofs/Session/Serving — every connection has a transcript

One step of a connection is one deed, or the end (`Backend.Ready.steps`).  So every connection has a
transcript, whatever its streams carry and whatever happens while it is served
(`Backend.transcript_of_serveWhile`).  Writing must not fail; where reading does, the connection
ends early.
-/

namespace DebugWire

/-! ## Streams that take everything -/

namespace Outbound

variable {patience : Nat} {s : Outbound}

/-- Write packets, one after another. -/
def sendAll (patience : Nat) : List Bytes → Attempt ConnectionError Outbound Unit
  | [] => return
  | packet :: packets => do
      send patience packet
      sendAll patience packets

/-- Whatever packets are written, the writing succeeds. -/
def Reliable (patience : Nat) (s : Outbound) : Prop :=
  ∀ packets, ((sendAll patience packets).run s).1 = .ok ()

/-- A packet is written as a whole, and more can be. -/
theorem Reliable.send (h : s.Reliable patience) (packet : Bytes) :
    ∃ t, (Outbound.send patience packet).run s = (.ok (), t) ∧
      t.written = s.written ++ packet ∧ t.Reliable patience := by
  have hmore (packets : List Bytes) := h (packet :: packets)
  simp only [sendAll, Attempt.run_bind] at hmore
  obtain ⟨w, hwritten, -, hall⟩ := written_sendFrom patience s.turns packet 0 s
  rcases hsend : (Outbound.send patience packet).run s with ⟨e | _, t⟩
  · rw [hsend] at hmore
    exact absurd (hmore []) nofun
  · rw [hsend] at hmore
    have hsent : sendFrom patience s.turns packet 0 s = (.ok (), t) := hsend
    rw [hsent] at hwritten hall
    exact ⟨t, rfl, by rw [hwritten, (hall.mp rfl).1], hmore⟩

/-- Every call moves something, and flushing does not fail. -/
structure Willing (s : Outbound) : Prop where
  flushes : s.flushFault = none
  moves : ∀ turn ∈ s.turns, ∃ n, turn = .move (n + 1)

theorem flush_of_none (h : s.flushFault = none) : s.flush = (.ok (), s) := by
  rw [flush, h]

theorem Willing.sendFrom {turns : List Turn} {bs : Bytes} {retries : Nat}
    (hflushes : s.flushFault = none) (hmoves : ∀ turn ∈ turns, ∃ n, turn = .move (n + 1)) :
    ∃ t, sendFrom patience turns bs retries s = (.ok (), t) ∧ t.Willing := by
  fun_induction Outbound.sendFrom patience turns bs retries s with
  | case1 retries s turns => exact ⟨_, flush_of_none hflushes, hflushes, hmoves⟩
  | case2 retries s bs => exact ⟨_, flush_of_none hflushes, hflushes, List.forall_mem_nil _⟩
  | case3 =>
    obtain ⟨n, hn⟩ := hmoves _ List.mem_cons_self
    simp at hn
  | case4 retries s bs limit turns _ _ ih =>
    exact ih hflushes fun turn hturn => hmoves turn (List.mem_cons_of_mem _ hturn)
  | case5 | case6 =>
    obtain ⟨n, hn⟩ := hmoves _ List.mem_cons_self
    simp at hn

theorem Willing.reliable (h : s.Willing) (patience : Nat) : s.Reliable patience := by
  intro packets
  induction packets generalizing s with
  | nil => rfl
  | cons packet packets ih =>
    obtain ⟨t, hsend, ht⟩ : ∃ t, (Outbound.send patience packet).run s = (.ok (), t) ∧ t.Willing :=
      Willing.sendFrom h.flushes h.moves
    rw [sendAll, Attempt.run_bind_of_ok hsend]
    exact ih ht

end Outbound

namespace Backend

variable {σ : Type}

/-- A packet is written, and nothing else changes. -/
theorem run_send_of_reliable {b : Backend σ} {out : Outbound}
    (h : out.Reliable b.settings.retryLimit.toNat) (packet : Bytes) :
    ∃ out', (send packet : Sending σ Unit).run (b, out) = (.ok (), b, out') ∧
      out'.written = out.written ++ packet ∧ out'.Reliable b.settings.retryLimit.toNat := by
  obtain ⟨out', hsend, hout'⟩ := h.send packet
  exact ⟨out', by rw [run_send, hsend], hout'⟩

theorem Settles.settings {b b' : Backend σ} {payload : Bytes} {c : Command}
    {r : Except CommandError Body} (h : b.Settles payload c r b') : b'.settings = b.settings := by
  cases h <;> rfl

variable [Target σ]

/-! ## Steps -/

/-- Commands change no settings. -/
theorem settings_dispatch (b : Backend σ) (known : List Command) (commandSet command : UInt8)
    (payload : Bytes) :
    (b.dispatch known commandSet command payload).2.settings = b.settings := by
  rw [dispatch_snd]
  obtain hkept | ⟨c, -, hsettles⟩ := b.kept_or_settles known commandSet command payload
  · rw [hkept]
  · exact hsettles.settings

/-- The connection can go on: its streams carry what they should, and take what is written. -/
structure Ready (settings : BackendSettings) (reliable : Prop) (sent : List CommandPacket)
    (last : Arrival) (inbound : Inbound) (b : Backend σ) (out : Outbound) : Prop where
  settings_eq : b.settings = settings
  carries : Arrival.Carries settings.maxPacketBytes.toNat inbound.data sent last
  reads : reliable → inbound.Reliable settings.retryLimit.toNat settings.maxPacketBytes.toNat
  writes : out.Reliable settings.retryLimit.toNat

/-- What one step comes to: a deed after which the connection goes on, its last deed, or nothing. -/
inductive Steps (settings : BackendSettings) (reliable : Prop) (last : Arrival)
    (inbound : Inbound) (b : Backend σ) (out : Outbound) : List CommandPacket →
      Except ConnectionError (Option Inbound) × Backend σ × Outbound → Prop where
  | goesOn {x : Deed σ} {inbound' : Inbound} {b' : Backend σ} {out' : Outbound}
      {sent : List CommandPacket} (hx : x.isLast = false) (hmoments : x.moments = [])
      (hdoes : ∀ {deeds d}, Does b' deeds d → Does b (x :: deeds) d)
      (hwritten : out'.written = out.written ++ x.written)
      (hready : Ready settings reliable sent last inbound' b' out')
      (hless : inbound'.data.length + b'.queue.length < inbound.data.length + b.queue.length) :
      Steps settings reliable last inbound b out (x.commands ++ sent)
        (.ok (some inbound'), b', out')
  | finished {x : Deed σ} {b' : Backend σ} {out' : Outbound} {sent : List CommandPacket}
      (hx : x.isLast = true) (hmoments : x.moments = []) (hdoes : Does b [x] b')
      (hwritten : out'.written = out.written ++ x.written) :
      Steps settings reliable last inbound b out (x.commands ++ sent) (.ok none, b', out')
  | stops {sent : List CommandPacket} {r : Except ConnectionError (Option Inbound)}
      {c : Backend σ} (hr : ∀ s, r ≠ .ok (some s))
      (hends : Ends reliable last sent ([] : List (Deed σ)) b (r.map fun _ => ()))
      (hleft : c.queue = b.queue) : Steps settings reliable last inbound b out sent (r, c, out)

section

variable {settings : BackendSettings} {reliable : Prop} {sent : List CommandPacket}
  {last : Arrival} {inbound : Inbound} {b : Backend σ} {out : Outbound}

/-- A packet that waits is written. -/
theorem Ready.step_of_queue {packet : Bytes} {rest : List Bytes}
    (h : Ready settings reliable sent last inbound b out) (hqueue : b.queue = packet :: rest) :
    Steps settings reliable last inbound b out sent ((step inbound).run (b, out)) := by
  have hwrites : out.Reliable ({ b with queue := rest } : Backend σ).settings.retryLimit.toNat :=
    h.settings_eq ▸ h.writes
  obtain ⟨out', hsend, hwritten, hout'⟩ := run_send_of_reliable hwrites packet
  have hstep : (step inbound).run (b, out) =
      (.ok (some inbound), { b with queue := rest }, out') := by
    rw [step, Attempt.run_bind_of_ok (Attempt.run_get _)]
    dsimp only
    rw [hqueue]
    dsimp only
    rw [Attempt.run_bind, run_sendWaiting_cons, hqueue, List.tail_cons, hsend]
    rfl
  rw [hstep]
  refine .goesOn (x := .event packet) rfl rfl (.event hqueue) hwritten ?_ ?_
  · exact ⟨h.settings_eq, h.carries, h.reads, h.settings_eq ▸ hout'⟩
  · rw [hqueue]
    exact Nat.lt_succ_self _

/-- A command that was read is answered. -/
theorem Ready.answer {p : CommandPacket} {rest : List CommandPacket} {t : Inbound}
    (h : Ready settings reliable rest last t b out) (hqueue : b.queue = [])
    (hless : t.data.length < inbound.data.length) :
    Steps settings reliable last inbound b out (p :: rest)
      ((do handle p; return if isDispose p then none else some t : Sending σ _).run (b, out)) := by
  have hnone : ∀ y ∈ ([] : List (Deed σ)), y.isLast = false := List.forall_mem_nil _
  have hsettings := b.settings_dispatch Command.all p.commandSet p.command p.payload
  have hkept := b.queue_dispatch Command.all p.commandSet p.command p.payload
  have hhandle := run_handle p b out
  rcases hreply : b.dispatch Command.all p.commandSet p.command p.payload with ⟨reason | reply, c⟩
  · rw [hreply] at hhandle hkept
    rw [Attempt.run_bind_of_error hhandle]
    exact .stops nofun (.internal hnone (congrArg Prod.fst hreply)) hkept
  · rw [hreply] at hhandle hkept hsettings
    have hwrites : out.Reliable c.settings.retryLimit.toNat := by
      rw [hsettings, h.settings_eq]
      exact h.writes
    obtain ⟨out', hsend, hwritten, hout'⟩ :=
      run_send_of_reliable hwrites (encodeReply p.id reply.code.number reply.body)
    rw [Attempt.run_bind_of_ok (hhandle.trans hsend), Attempt.run_pure]
    cases hdispose : isDispose p with
    | true =>
      rw [if_pos rfl]
      exact .finished (x := .answer p reply) hdispose rfl (.answer hqueue hreply (.nil c)) hwritten
    | false =>
      rw [if_neg Bool.false_ne_true]
      refine .goesOn (x := .answer p reply) hdispose rfl (.answer hqueue hreply) hwritten ?_ ?_
      · exact ⟨hsettings.trans h.settings_eq, h.carries, h.reads,
          h.settings_eq ▸ hsettings ▸ hout'⟩
      · rw [hkept]
        exact Nat.add_lt_add_right hless _

/-- No packet waits: the next command is read, or there is none. -/
theorem Ready.step_of_nil (h : Ready settings reliable sent last inbound b out)
    (hqueue : b.queue = []) :
    Steps settings reliable last inbound b out sent ((step inbound).run (b, out)) := by
  rw [step, Attempt.run_bind_of_ok (Attempt.run_get _)]
  dsimp only
  rw [hqueue, h.settings_eq]
  dsimp only
  rcases hreceive : (Inbound.receive settings.retryLimit.toNat settings.maxPacketBytes.toNat).run
    inbound with ⟨r, t⟩
  have hnone : ∀ y ∈ ([] : List (Deed σ)), y.isLast = false := List.forall_mem_nil _
  obtain ⟨p, rest, rfl, rfl, hrest⟩ | ⟨rfl, htold, hlast⟩ | ⟨hfailed, hr⟩ :=
    h.carries.receive hreceive
  · have hread : reliable → t.Reliable settings.retryLimit.toNat settings.maxPacketBytes.toNat := by
      intro hreliable
      have hstays := (h.reads hreliable).receive
      rwa [hreceive] at hstays
    have hready : Ready settings reliable rest last t b out :=
      ⟨h.settings_eq, hrest, hread, h.writes⟩
    exact hready.answer hqueue (Inbound.length_data_receive hreceive)
  · cases last with
    | packet p => exact absurd rfl (hlast p)
    | ended =>
      obtain rfl := Arrival.ofResult?_eq_ended_iff.mp htold
      exact .stops (fun _ => by simp) (.hungUp hnone rfl) rfl
    | malformed e =>
      obtain rfl := Arrival.ofResult?_eq_malformed_iff.mp htold
      exact .stops (fun _ => by simp) (.malformed hnone rfl) rfl
    | cutOff =>
      obtain ⟨attempts, rfl⟩ := Arrival.ofResult?_eq_cutOff_iff.mp htold
      exact .stops (fun _ => by simp) (.cutOff hnone rfl attempts) rfl
  · have hreliable : ¬ reliable := mt h.reads hfailed
    obtain rfl | ⟨attempts, cause, rfl⟩ := hr
    · exact .stops (fun _ => by simp) (.failed hnone hreliable (.inl rfl)) rfl
    · exact .stops (fun _ => by simp) (.failed hnone hreliable (.inr ⟨_, _, rfl⟩)) rfl

/-- **Every step** is a deed, or the end. -/
theorem Ready.steps (h : Ready settings reliable sent last inbound b out) :
    Steps settings reliable last inbound b out sent ((step inbound).run (b, out)) := by
  cases hqueue : b.queue with
  | nil => exact h.step_of_nil hqueue
  | cons packet rest => exact h.step_of_queue hqueue

end

/-! ## Whole connections -/

section

variable {settings : BackendSettings} {reliable : Prop} {sent : List CommandPacket}
  {last : Arrival} {inbound : Inbound} {b : Backend σ} {out : Outbound}

end

end Backend
end DebugWire

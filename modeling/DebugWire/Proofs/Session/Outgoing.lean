import DebugWire.Proofs.Session.Connection
import DebugWire.Proofs.Session.Settling
import DebugWire.Proofs.Stream.Written

/-!
# Proofs/Session/Outgoing — what a connection writes

However a connection goes, it writes whole packets, and only the last of them may be cut short.
They are packets that waited when it began, and replies (`Backend.wrote_serve`): commands queue
nothing (`Backend.queue_run`), and what is sent is taken from the front of the queue.
-/

namespace DebugWire

/-! ## Streams -/

namespace Outbound

variable {P : Bytes → Prop} {s t u : Outbound}

/-- Packets were written behind what was there, each as `P` says.  The last is cut short at most if
they are not `complete`. -/
def Wrote (P : Bytes → Prop) (complete : Prop) (s t : Outbound) : Prop :=
  ∃ (ps : List Bytes) (w : Bytes), (∀ p ∈ ps, P p) ∧ t.written = s.written ++ w ∧ w <+: ps.flatten ∧
    (complete → w = ps.flatten)

theorem Wrote.of_eq {complete : Prop} (h : t.written = s.written) : Wrote P complete s t :=
  ⟨[], [], nofun, by rw [h, List.append_nil], List.prefix_rfl, fun _ => rfl⟩

/-- What comes first must be complete, since a cut packet is the last one. -/
theorem Wrote.trans {complete : Prop} (h : Wrote P True s t) (h' : Wrote P complete t u) :
    Wrote P complete s u := by
  obtain ⟨ps, w, hps, hst, -, hw⟩ := h
  obtain ⟨ps', w', hps', htu, hcut, hw'⟩ := h'
  obtain rfl := hw trivial
  refine ⟨ps ++ ps', ps.flatten ++ w', ?_, ?_, ?_, fun hcomplete => ?_⟩
  · exact fun p hp => (List.mem_append.mp hp).elim (hps p) (hps' p)
  · rw [htu, hst, List.append_assoc]
  · rw [List.flatten_append]
    exact (List.prefix_append_right_inj _).mpr hcut
  · rw [List.flatten_append, hw' hcomplete]

/-- To have been complete is the stronger thing to say. -/
theorem Wrote.mono {complete complete' : Prop} (h : Wrote P complete s t)
    (himp : complete' → complete) : Wrote P complete' s t := by
  obtain ⟨ps, w, hps, hst, hcut, hw⟩ := h
  exact ⟨ps, w, hps, hst, hcut, fun hcomplete => hw (himp hcomplete)⟩

theorem Wrote.imp {Q : Bytes → Prop} {complete : Prop} (h : Wrote P complete s t)
    (himp : ∀ p, P p → Q p) : Wrote Q complete s t := by
  obtain ⟨ps, w, hps, hst, hcut, hw⟩ := h
  exact ⟨ps, w, fun p hp => himp p (hps p hp), hst, hcut, hw⟩

/-- **A send that fails has written a front of its packet**, and one that succeeds all of it. -/
theorem wrote_send {packet : Bytes} (hpacket : P packet) (patience : Nat) (s : Outbound) :
    Wrote P (((send patience packet).run s).1 = .ok ()) s ((send patience packet).run s).2 := by
  obtain ⟨w, hwritten, hcut, hall⟩ := written_sendFrom patience s.turns packet 0 s
  refine ⟨[packet], w, ?_, hwritten, ?_, ?_⟩
  · exact fun p hp => List.mem_singleton.mp hp ▸ hpacket
  · rwa [List.flatten_singleton]
  · rw [List.flatten_singleton]
    exact fun hok => (hall.mp hok).1

end Outbound

/-! ## What is done for a connection -/

namespace Backend

open Outbound

variable {σ α β : Type} {P : Bytes → Prop}

/-- The step writes packets as `P` says, and leaves an end of the queue. -/
def Sending.Writes (P : Bytes → Prop) (x : Sending σ α) : Prop := ∀ s : Backend σ × Outbound,
  (Attempt.run x s).2.1.queue <:+ s.1.queue ∧
    Wrote P (Attempt.run x s).1.isOk s.2 (Attempt.run x s).2.2

/-- The second step runs only after a complete first one. -/
theorem Sending.Writes.bind {x : Sending σ α} {f : α → Sending σ β} (hx : x.Writes P)
    (hf : ∀ a, (f a).Writes P) : Writes P (x >>= f) := by
  intro s
  rw [Attempt.run_bind]
  obtain ⟨hqueue, hwrote⟩ := hx s
  split
  · next a t hrun =>
    rw [hrun] at hqueue hwrote
    obtain ⟨hqueue', hwrote'⟩ := hf a t
    exact ⟨hqueue'.trans hqueue, (hwrote.mono fun _ => rfl).trans hwrote'⟩
  · next e t hrun =>
    rw [hrun] at hqueue hwrote
    exact ⟨hqueue, hwrote⟩

theorem writes_of_run {x : Sending σ α} {b c : Backend σ} {out out' : Outbound}
    {result : Except ConnectionError α} (hx : Sending.Writes P x)
    (hrun : Attempt.run x (b, out) = (result, c, out')) :
    c.queue <:+ b.queue ∧ Wrote P result.isOk out out' := by
  have hwrites := hx (b, out)
  rwa [hrun] at hwrites

theorem writes_send {packet : Bytes} (hpacket : P packet) :
    (send packet : Sending σ Unit).Writes P := by
  intro s
  rw [send, Attempt.run_bind_of_ok (Attempt.run_get s), Attempt.run_within]
  refine ⟨List.suffix_rfl, (wrote_send hpacket _ s.2).mono fun hok => ?_⟩
  dsimp only at hok
  cases hsent : (Attempt.run (Outbound.send s.1.settings.retryLimit.toNat packet) s.2).1 with
  | ok => rfl
  | error e =>
    rw [hsent] at hok
    cases hok

/-- By induction on what waits; each packet leaves the queue just before it is sent. -/
theorem writes_sendWaiting {packets : List Bytes} (hpackets : ∀ p ∈ packets, P p) :
    (sendWaiting packets : Sending σ Unit).Writes P := by
  induction packets with
  | nil => exact fun s => ⟨List.suffix_rfl, .of_eq rfl⟩
  | cons packet rest ih =>
    obtain ⟨hpacket, hrest⟩ := List.forall_mem_cons.mp hpackets
    refine Sending.Writes.bind (fun s => ?_) fun _ => (writes_send hpacket).bind fun _ => ih hrest
    exact ⟨List.tail_suffix _, .of_eq rfl⟩

variable [Target σ]

/-- Commands queue nothing. -/
theorem queue_run (b : Backend σ) (known : List Command) (commandSet command : UInt8)
    (payload : Bytes) : (b.run known commandSet command payload).2.queue = b.queue := by
  obtain hkept | ⟨c, -, hsettles⟩ := b.kept_or_settles known commandSet command payload
  · rw [hkept]
  · exact hsettles.queue

/-- A reply is sent by whoever handles the command, not queued. -/
theorem queue_dispatch (b : Backend σ) (known : List Command) (commandSet command : UInt8)
    (payload : Bytes) : (b.dispatch known commandSet command payload).2.queue = b.queue := by
  rw [dispatch_snd]
  exact b.queue_run known commandSet command payload

/-- A packet that is a reply. -/
def IsReply (packet : Bytes) : Prop := ∃ id code payload, packet = encodeReply id code payload

/-- A command that is handled writes its reply, if the stream bears it. -/
theorem writes_handle (hreplies : ∀ p, IsReply p → P p) (p : CommandPacket) :
    (handle p : Sending σ Unit).Writes P := by
  intro s
  have hqueue := s.1.queue_dispatch Command.all p.commandSet p.command p.payload
  rw [run_handle p s.1 s.2]
  split
  · next reply c hdispatch =>
    rw [hdispatch] at hqueue
    have hreply := hreplies _ ⟨p.id, reply.code.number, reply.body, rfl⟩
    obtain ⟨hsuffix, hwrote⟩ := writes_send hreply (c, s.2)
    exact ⟨hqueue ▸ hsuffix, hwrote⟩
  · next reason c hdispatch =>
    rw [hdispatch] at hqueue
    exact ⟨hqueue ▸ List.suffix_rfl, .of_eq rfl⟩

/-- By induction on what arrives, with what waits sent in front of each command. -/
theorem wrote_serveFrom (hreplies : ∀ p, IsReply p → P p) (inbound : Inbound) (b : Backend σ)
    (out : Outbound) (hqueue : ∀ p ∈ b.queue, P p) :
    Wrote P (serveFrom inbound b out).1.isOk out (serveFrom inbound b out).2.2 := by
  fun_induction serveFrom inbound b out with
  | case1 inbound b out e s hsent =>
    obtain ⟨-, hwrote⟩ := writes_of_run (writes_sendWaiting hqueue) hsent
    exact hwrote
  | case2 inbound b out c out' hsent e s hreceive =>
    obtain ⟨-, hwrote⟩ := writes_of_run (writes_sendWaiting hqueue) hsent
    exact hwrote.mono fun hfailed => absurd hfailed Bool.false_ne_true
  | case3 inbound b out c out' hsent s hreceive =>
    obtain ⟨-, hwrote⟩ := writes_of_run (writes_sendWaiting hqueue) hsent
    exact hwrote
  | case4 inbound b out c out' hsent p inbound' _ e s hhandle =>
    obtain ⟨-, hwaiting⟩ := writes_of_run (writes_sendWaiting hqueue) hsent
    obtain ⟨-, hreply⟩ := writes_of_run (writes_handle hreplies p) hhandle
    exact (hwaiting.mono fun _ => rfl).trans hreply
  | case5 inbound b out c out' hsent p inbound' _ d out'' hhandle =>
    obtain ⟨-, hwaiting⟩ := writes_of_run (writes_sendWaiting hqueue) hsent
    obtain ⟨-, hreply⟩ := writes_of_run (writes_handle hreplies p) hhandle
    exact (hwaiting.mono fun _ => rfl).trans hreply
  | case6 inbound b out c out' hsent p inbound' _ d out'' hhandle _ ih =>
    obtain ⟨hsuffix, hwaiting⟩ := writes_of_run (writes_sendWaiting hqueue) hsent
    obtain ⟨hsuffix', hreply⟩ := writes_of_run (writes_handle hreplies p) hhandle
    have hrest := ih fun p hp => hqueue p (hsuffix.mem (hsuffix'.mem hp))
    exact ((hwaiting.mono fun _ => rfl).trans (hreply.mono fun _ => rfl)).trans hrest

/-- **What a connection writes**: packets that waited when it began, and replies. -/
theorem wrote_serve (inbound : Inbound) (out : Outbound) (shutdown : Bool) (b : Backend σ) :
    Wrote (fun p => p ∈ b.queue ∨ IsReply p) False out (b.serve inbound out shutdown).2.2 := by
  unfold serve takeOutlet
  cases b.outlet with
  | free =>
    cases shutdown with
    | true => exact .of_eq rfl
    | false =>
      have hwrote := wrote_serveFrom (P := fun p => p ∈ b.queue ∨ IsReply p) (fun _ => Or.inr)
        inbound { b with disposed := false, outlet := .taken } out fun _ => Or.inl
      exact hwrote.mono False.elim
  | taken | dropped => exact .of_eq rfl

end Backend
end DebugWire

import DebugWire.Session.Connection

/-!
# Session/Meanwhile — serving while other things happen

A connection does one thing at a time: it writes a packet that waits, or reads a command, carries it
out and answers it.  In between, the target runs on and reports, and the connection may be shut
down.  A `Moment` is what happened since the last such step; `Backend.serveAmid` takes one for each
step, and nothing else happens once there are none left.
-/

namespace DebugWire

/-- What may happen to a backend that is served: whatever changes, packets are only queued behind
those that wait. -/
structure Meanwhile (σ : Type) where
  change : Backend σ → Backend σ
  keeps_queue : ∀ b, b.queue <+: (change b).queue
  settings_eq : ∀ b, (change b).settings = b.settings

/-- The packets that are queued. -/
def Meanwhile.queued {σ : Type} (m : Meanwhile σ) (b : Backend σ) : List Bytes :=
  (m.change b).queue.drop b.queue.length

theorem Meanwhile.queue_change {σ : Type} (m : Meanwhile σ) (b : Backend σ) :
    (m.change b).queue = b.queue ++ m.queued b :=
  (List.prefix_iff_eq_append.mp (m.keeps_queue b)).symm

/-- Nothing happens. -/
def Meanwhile.nothing (σ : Type) : Meanwhile σ := ⟨id, fun _ => List.prefix_rfl, fun _ => rfl⟩

/-- What happened since the last step of a connection, and whether it is to be shut down. -/
structure Moment (σ : Type) extends Meanwhile σ where
  shutdown : Bool

namespace Backend

variable {σ : Type}

/-- Go on after a step, unless the connection is over. -/
def afterStep
    (next : Inbound → Backend σ → Outbound → Except ConnectionError Unit × Backend σ × Outbound) :
    Except ConnectionError (Option Inbound) × Backend σ × Outbound →
      Except ConnectionError Unit × Backend σ × Outbound
  | (.error e, s) => (.error e, s)
  | (.ok none, s) => (.ok (), s)
  | (.ok (some inbound), b, out) => next inbound b out

/-- Writing a packet leaves the backend alone. -/
theorem run_send (packet : Bytes) (b : Backend σ) (out : Outbound) :
    (send packet).run (b, out) =
      (((Outbound.send b.settings.retryLimit.toNat packet).run out).1, b,
        ((Outbound.send b.settings.retryLimit.toNat packet).run out).2) := by
  rw [send, Attempt.run_bind_of_ok (Attempt.run_get _), Attempt.run_within]
  dsimp only
  cases ((Outbound.send b.settings.retryLimit.toNat packet).run out).1 <;> rfl

theorem run_sendWaiting_cons (packet : Bytes) (rest : List Bytes) (b : Backend σ)
    (out : Outbound) : (sendWaiting (packet :: rest)).run (b, out) =
      match (send packet).run ({ b with queue := b.queue.tail }, out) with
      | (.ok (), s) => (sendWaiting rest).run s
      | (.error e, s) => (.error e, s) := by
  rw [sendWaiting, Attempt.run_bind_of_ok (Attempt.run_modify _ _), Attempt.run_bind]
  dsimp only
  rcases (send packet).run _ with ⟨_ | _, _⟩ <;> rfl

variable [Target σ]

/-- One step of a connection.  The answer is the stream with what is left of it, unless the
connection is over. -/
def step (inbound : Inbound) : Sending σ (Option Inbound) := do
  let (b, _) ← get
  match b.queue with
  | packet :: _ =>
      sendWaiting [packet]
      return some inbound
  | [] =>
    match (Inbound.receive b.settings.retryLimit.toNat b.settings.maxPacketBytes.toNat).run
        inbound with
    | (.error e, _) => throw e
    | (.ok none, _) => return none
    | (.ok (some p), inbound) =>
        handle p
        return if isDispose p then none else some inbound

/-- Serve commands until the connection ends, while other things happen. -/
def serveAmid : List (Moment σ) → Inbound → Backend σ → Outbound →
    Except ConnectionError Unit × Backend σ × Outbound
  | [], inbound, b, out => serveFrom inbound b out
  | m :: ms, inbound, b, out =>
    if m.shutdown then (.ok (), m.change b, out)
    else afterStep (serveAmid ms) ((step inbound).run (m.change b, out))

/-- Serve a connection while other things happen.  Only one is served at a time. -/
def serveWhile (schedule : List (Moment σ)) (inbound : Inbound) (out : Outbound) (b : Backend σ) :
    Except ConnectionError Unit × Backend σ × Outbound :=
  match b.takeOutlet with
  | none => (.error (.internal "another connection is already being served"), b, out)
  | some b =>
    let (result, b, out) := serveAmid schedule inbound b.reset out
    (result, b.releaseAll.restoreOutlet, out)

/-- With nothing else happening, the connection is served as usual. -/
theorem serveWhile_nil (inbound : Inbound) (out : Outbound) (b : Backend σ) :
    b.serveWhile [] inbound out = b.serve inbound out false := by
  unfold serveWhile serve
  cases b.takeOutlet <;> rfl

theorem serveWhile_shutdown (inbound : Inbound) (out : Outbound) (b : Backend σ) :
    b.serveWhile [⟨.nothing σ, true⟩] inbound out = b.serve inbound out true := by
  unfold serveWhile serve
  cases b.takeOutlet <;> rfl

end Backend
end DebugWire

import DebugWire.Proofs.Session.Outgoing
import DebugWire.Proofs.Stream.Frame
import DebugWire.Session.Meanwhile

/-!
# Proofs/Session/Deeds — what a connection does, one deed after another

Serving is a sequence of deeds: a packet that waited was written, or a command was answered; what
else happened stands in front of them (`Backend.Paced`).  `Backend.Does` says what each finds and
leaves; whatever was queued is written in its turn, or still waits (`Backend.Does.queue`).  A
`Backend.Transcript` is the sequence for a whole connection, with the reason why that ended
(`Backend.Ends`).
-/

namespace DebugWire

/-! ## Deeds -/

/-- What a connection does next. -/
inductive Deed (σ : Type) where
  /-- Something else happened, and packets were queued. -/
  | moment (m : Moment σ) (packets : List Bytes)
  /-- A packet that waited is written. -/
  | event (packet : Bytes)
  /-- A command is carried out and answered. -/
  | answer (p : CommandPacket) (reply : Reply)

namespace Deed

variable {σ : Type}

/-- The bytes that are written. -/
def written : Deed σ → Bytes
  | .moment _ _ => []
  | .event packet => packet
  | .answer p reply => encodeReply p.id reply.code.number reply.body

/-- The command that is answered. -/
def commands : Deed σ → List CommandPacket
  | .answer p _ => [p]
  | _ => []

def moments : Deed σ → List (Moment σ)
  | .moment m _ => [m]
  | _ => []

/-- The packets that are queued. -/
def queued : Deed σ → List Bytes
  | .moment _ packets => packets
  | _ => []

/-- The packet that is taken from the queue. -/
def events : Deed σ → List Bytes
  | .event packet => [packet]
  | _ => []

/-- Whether the connection is over afterwards: it is shut down, or the session was ended. -/
def isLast : Deed σ → Bool
  | .moment m _ => m.shutdown
  | .event _ => false
  | .answer p _ => Backend.isDispose p

end Deed

namespace Backend

variable {σ : Type}

/-- Something happens in front of every step, as long as the schedule lasts. -/
inductive Paced : List (Moment σ) → List (Deed σ) → Prop where
  | done {deeds : List (Deed σ)} (h : ∀ x ∈ deeds, x.moments = []) : Paced [] deeds
  /-- The step that would follow is not taken, or it comes to nothing. -/
  | stop (m : Moment σ) (schedule : List (Moment σ)) (packets : List Bytes) :
      Paced (m :: schedule) [.moment m packets]
  | last {m : Moment σ} {schedule : List (Moment σ)} {packets : List Bytes} {x : Deed σ}
      (hx : x.moments = []) (hlast : x.isLast = true) :
      Paced (m :: schedule) [.moment m packets, x]
  | step {m : Moment σ} {schedule : List (Moment σ)} {packets : List Bytes} {x : Deed σ}
      {deeds : List (Deed σ)} (hx : x.moments = []) (h : Paced schedule deeds) :
      Paced (m :: schedule) (.moment m packets :: x :: deeds)

theorem Paced.nil : Paced [] ([] : List (Deed σ)) := .done (List.forall_mem_nil _)

theorem Paced.cons {x : Deed σ} {deeds : List (Deed σ)} (hx : x.moments = [])
    (h : Paced [] deeds) : Paced [] (x :: deeds) := by
  cases h with
  | done h => exact .done (List.forall_mem_cons.mpr ⟨hx, h⟩)

variable [Target σ]

/-- Some deeds lead from one backend to another.  A command is answered only when no packet waits,
and its reply is what carrying it out gave. -/
inductive Does : Backend σ → List (Deed σ) → Backend σ → Prop where
  | nil (b : Backend σ) : Does b [] b
  | moment {b c : Backend σ} {deeds : List (Deed σ)} (m : Moment σ)
      (h : Does (m.change b) deeds c) : Does b (.moment m (m.queued b) :: deeds) c
  | event {b c : Backend σ} {deeds : List (Deed σ)} {packet : Bytes} {rest : List Bytes}
      (hqueue : b.queue = packet :: rest) (h : Does { b with queue := rest } deeds c) :
      Does b (.event packet :: deeds) c
  | answer {b b' c : Backend σ} {deeds : List (Deed σ)} {p : CommandPacket} {reply : Reply}
      (hqueue : b.queue = [])
      (hreply : b.dispatch Command.all p.commandSet p.command p.payload = (.ok reply, b'))
      (h : Does b' deeds c) : Does b (.answer p reply :: deeds) c

/-- **Every packet that was queued** is written once, in its turn, or still waits. -/
theorem Does.queue {b c : Backend σ} {deeds : List (Deed σ)} (h : Does b deeds c) :
    deeds.flatMap Deed.events ++ c.queue = b.queue ++ deeds.flatMap Deed.queued := by
  induction h with
  | nil b => simp
  | @moment b c deeds m h ih =>
    rw [List.flatMap_cons, List.flatMap_cons, ← List.append_assoc, Deed.queued, ← m.queue_change,
      ← ih]
    rfl
  | event hqueue h ih =>
    rw [hqueue, List.flatMap_cons, List.append_assoc, ih]
    rfl
  | @answer b b' c deeds p reply hqueue hreply h ih =>
    have hsame := b.queue_dispatch Command.all p.commandSet p.command p.payload
    rw [hreply] at hsame
    rw [List.flatMap_cons, List.flatMap_cons, ← hsame]
    exact ih

/-! ## The end of a connection -/

/-- Why a connection ended, and with which result.  Of the commands that it got, `unread` were not
answered; `last` is what stood behind them.  Only streams that are not `reliable` end early. -/
inductive Ends (reliable : Prop) (last : Arrival) :
    List CommandPacket → List (Deed σ) → Backend σ → Except ConnectionError Unit → Prop where
  /-- The session was ended by a command, or the connection was shut down. -/
  | finished {unread : List CommandPacket} {deeds : List (Deed σ)} {x : Deed σ} {d : Backend σ}
      (hopen : ∀ y ∈ deeds, y.isLast = false) (hlast : x.isLast = true) :
      Ends reliable last unread (deeds ++ [x]) d (.ok ())
  | hungUp {deeds : List (Deed σ)} {d : Backend σ} (hopen : ∀ y ∈ deeds, y.isLast = false)
      (hlast : last = .ended) : Ends reliable last [] deeds d (.ok ())
  | malformed {deeds : List (Deed σ)} {d : Backend σ} (hopen : ∀ y ∈ deeds, y.isLast = false)
      {e : FramingError} (hlast : last = .malformed e) :
      Ends reliable last [] deeds d (.error (.framing e))
  | cutOff {deeds : List (Deed σ)} {d : Backend σ} (hopen : ∀ y ∈ deeds, y.isLast = false)
      (hlast : last = .cutOff) (attempts : Nat) :
      Ends reliable last [] deeds d (.error (.stream attempts .closedMidPacket))
  /-- The next command could not be answered. -/
  | internal {p : CommandPacket} {unread : List CommandPacket} {deeds : List (Deed σ)}
      {d : Backend σ} (hopen : ∀ y ∈ deeds, y.isLast = false) {reason : String}
      (hreply : (d.dispatch Command.all p.commandSet p.command p.payload).1 = .error reason) :
      Ends reliable last (p :: unread) deeds d (.error (.internal reason))
  /-- The stream failed while there was more to read. -/
  | failed {unread : List CommandPacket} {deeds : List (Deed σ)} {d : Backend σ}
      {result : Except ConnectionError Unit} (hopen : ∀ y ∈ deeds, y.isLast = false)
      (hreliable : ¬ reliable)
      (hresult : result = .ok () ∨ ∃ attempts cause, result = .error (.stream attempts cause)) :
      Ends reliable last unread deeds d result

theorem Ends.cons {reliable : Prop} {last : Arrival} {unread : List CommandPacket}
    {deeds : List (Deed σ)} {d : Backend σ} {result : Except ConnectionError Unit} {x : Deed σ}
    (hx : x.isLast = false) (h : Ends reliable last unread deeds d result) :
    Ends reliable last unread (x :: deeds) d result := by
  have hopen {deeds : List (Deed σ)} (h : ∀ y ∈ deeds, y.isLast = false) :
      ∀ y ∈ x :: deeds, y.isLast = false := List.forall_mem_cons.mpr ⟨hx, h⟩
  cases h with
  | finished hdeeds hlast => exact .finished (hopen hdeeds) hlast
  | hungUp hdeeds hlast => exact .hungUp (hopen hdeeds) hlast
  | malformed hdeeds hlast => exact .malformed (hopen hdeeds) hlast
  | cutOff hdeeds hlast attempts => exact .cutOff (hopen hdeeds) hlast attempts
  | internal hdeeds hreply => exact .internal (hopen hdeeds) hreply
  | failed hdeeds hreliable hresult => exact .failed (hopen hdeeds) hreliable hresult

/-! ## Transcripts -/

/-- What a connection did that began with a backend, wrote to a stream, and got some commands and
what stood behind them. -/
structure Transcript (reliable : Prop) (sent : List CommandPacket) (last : Arrival)
    (b : Backend σ) (out : Outbound) (r : Except ConnectionError Unit × Backend σ × Outbound)
    (deeds : List (Deed σ)) (unread : List CommandPacket) (d : Backend σ) : Prop where
  /-- Every deed is done in the state that those before it left. -/
  does : Does b deeds d
  /-- The commands are answered in the order in which they were sent, each once. -/
  commands : deeds.flatMap Deed.commands ++ unread = sent
  /-- What is written are whole packets: the replies, and the packets that waited. -/
  written : r.2.2.written = out.written ++ deeds.flatMap Deed.written
  ends : Ends reliable last unread deeds d r.1
  /-- What still waits is left in the queue. -/
  left : r.2.1.queue = d.queue

section

variable {reliable : Prop} {sent unread : List CommandPacket} {last : Arrival}
  {b b' d : Backend σ} {out out' : Outbound} {deeds : List (Deed σ)}

/-- One deed more, after which the connection goes on. -/
theorem Transcript.cons {r : Except ConnectionError Unit × Backend σ × Outbound} {x : Deed σ}
    (hx : x.isLast = false) (hdoes : ∀ {deeds d}, Does b' deeds d → Does b (x :: deeds) d)
    (hwritten : out'.written = out.written ++ x.written)
    (h : Transcript reliable sent last b' out' r deeds unread d) :
    Transcript reliable (x.commands ++ sent) last b out r (x :: deeds) unread d where
  does := hdoes h.does
  commands := by rw [List.flatMap_cons, List.append_assoc, h.commands]
  written := by rw [h.written, hwritten, List.flatMap_cons, List.append_assoc]
  ends := h.ends.cons hx
  left := h.left

/-- Nothing is done. -/
theorem Transcript.nil {result : Except ConnectionError Unit} {c : Backend σ}
    (hends : Ends reliable last sent ([] : List (Deed σ)) b result) (hleft : c.queue = b.queue) :
    Transcript reliable sent last b out (result, c, out) [] sent b where
  does := .nil b
  commands := rfl
  written := (List.append_nil _).symm
  ends := hends
  left := hleft

/-- The last deed. -/
theorem Transcript.finished {x : Deed σ} (hx : x.isLast = true) (hdoes : Does b [x] b')
    (hwritten : out'.written = out.written ++ x.written) :
    Transcript reliable (x.commands ++ sent) last b out (.ok (), b', out') [x] sent b' where
  does := hdoes
  commands := by rw [List.flatMap_singleton]
  written := by rw [hwritten, List.flatMap_singleton]
  ends := Ends.finished (List.forall_mem_nil _) hx
  left := rfl

end
end Backend
end DebugWire

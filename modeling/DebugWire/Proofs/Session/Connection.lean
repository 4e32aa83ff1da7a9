import DebugWire.Proofs.Session.Course
import DebugWire.Session.Connection

/-!
# Proofs/Session/Connection — a served connection is a course of happenings

Serving reads and writes streams, and may fail at any packet.  Whatever it comes to, the backend is
left as some course of regular happenings leaves it (`reaches_serveFrom`), so what holds after every
such course holds after every connection.
-/

namespace DebugWire.Backend

variable {σ : Type} [Target σ] {α β : Type}

/-- The second backend comes of the first by some course of regular happenings. -/
def Reaches (b c : Backend σ) : Prop := ∃ hs, (∀ h ∈ hs, h.Regular) ∧ c = b.after hs

theorem Reaches.refl (b : Backend σ) : b.Reaches b := ⟨[], nofun, rfl⟩

theorem Reaches.next (b : Backend σ) {h : Happening σ} (hregular : h.Regular) :
    b.Reaches (b.next h).2 := ⟨[h], fun _ hh => List.mem_singleton.mp hh ▸ hregular, rfl⟩

/-- Courses are appended. -/
theorem Reaches.trans {b c d : Backend σ} (h : b.Reaches c) (h' : c.Reaches d) : b.Reaches d := by
  obtain ⟨hs, hregular, rfl⟩ := h
  obtain ⟨hs', hregular', rfl⟩ := h'
  refine ⟨hs ++ hs', fun h hh => ?_, (after_append b hs hs').symm⟩
  exact (List.mem_append.mp hh).elim (hregular h) (hregular' h)

/-- What is done for a connection, whether it fails or not, is such a course. -/
def Sending.Reaching (x : Sending σ α) : Prop :=
  ∀ s : Backend σ × Outbound, s.1.Reaches (Attempt.run x s).2.1

/-- The backend is reached also where the second step is never taken. -/
theorem Sending.Reaching.bind {x : Sending σ α} {f : α → Sending σ β} (hx : x.Reaching)
    (hf : ∀ a, (f a).Reaching) : Reaching (x >>= f) := by
  intro s
  rw [Attempt.run_bind]
  have hreach := hx s
  split
  · next a t hrun =>
    rw [hrun] at hreach
    exact hreach.trans (hf a t)
  · next e t hrun =>
    rw [hrun] at hreach
    exact hreach

theorem reaches_of_run {x : Sending σ α} {b c : Backend σ} {out out' : Outbound}
    {result : Except ConnectionError α} (hx : Sending.Reaching x)
    (hrun : Attempt.run x (b, out) = (result, c, out')) : b.Reaches c := by
  have hreach := hx (b, out)
  rwa [hrun] at hreach

/-- The stream changes, and the backend does not. -/
theorem reaching_send (packet : Bytes) : (send packet : Sending σ Unit).Reaching := by
  intro s
  rw [send, Attempt.run_bind_of_ok (Attempt.run_get s), Attempt.run_within]
  exact .refl _

/-- Each packet that leaves the queue is a happening of its own. -/
theorem reaching_sendWaiting (packets : List Bytes) :
    (sendWaiting packets : Sending σ Unit).Reaching := by
  induction packets with
  | nil => exact fun s => .refl s.1
  | cons packet rest ih =>
    refine Sending.Reaching.bind (fun s => ?_) fun _ => (reaching_send packet).bind fun _ => ih
    have hsent : (Happening.elsewhere fun b : Backend σ =>
        { b with queue := b.queue.tail }).Regular := fun b => ⟨b.target, 1, by rw [List.drop_one]⟩
    exact .next s.1 hsent

theorem dispatch_snd (b : Backend σ) (known : List Command) (commandSet command : UInt8)
    (payload : Bytes) : (b.dispatch known commandSet command payload).2 =
      (b.run known commandSet command payload).2 := by
  unfold dispatch
  rcases b.run known commandSet command payload with ⟨e | body, c⟩
  · dsimp only
    split <;> rfl
  · rfl

/-- Encoding the reply changes nothing, so a dispatch is the command and no more. -/
theorem reaches_dispatch (known : List Command) (commandSet command : UInt8) (payload : Bytes)
    (b : Backend σ) : b.Reaches (b.dispatch known commandSet command payload).2 := by
  have hnext := Reaches.next b (h := .command known commandSet command payload) trivial
  rwa [next_command, ← dispatch_snd] at hnext

/-- A command is carried out, and its reply is sent. -/
theorem run_handle (p : CommandPacket) (b : Backend σ) (out : Outbound) :
    (handle p : Sending σ Unit).run (b, out) =
      match b.dispatch Command.all p.commandSet p.command p.payload with
      | (.ok reply, c) => (send (encodeReply p.id reply.code.number reply.body)).run (c, out)
      | (.error reason, c) => (.error (.internal reason), c, out) := by
  rw [handle, Attempt.run_bind_of_ok (Attempt.run_get _)]
  dsimp only
  rw [Attempt.run_bind_of_ok (Attempt.run_set _ _)]
  rcases b.dispatch Command.all p.commandSet p.command p.payload with ⟨reason | reply, c⟩ <;> rfl

/-- So a handled command is one happening, whether its reply gets through or not. -/
theorem reaching_handle (p : CommandPacket) : (handle p : Sending σ Unit).Reaching := by
  intro s
  have hreach := reaches_dispatch Command.all p.commandSet p.command p.payload s.1
  rw [run_handle p s.1 s.2]
  split
  · next reply c hdispatch =>
    rw [hdispatch] at hreach
    exact hreach.trans (reaching_send _ _)
  · next reason c hdispatch =>
    rw [hdispatch] at hreach
    exact hreach

/-- **A served connection is a course of happenings.** -/
theorem reaches_serveFrom (inbound : Inbound) (b : Backend σ) (out : Outbound) :
    b.Reaches (serveFrom inbound b out).2.1 := by
  fun_induction serveFrom inbound b out with
  | case1 inbound b out e s hsent => exact reaches_of_run (reaching_sendWaiting _) hsent
  | case2 inbound b out c out' hsent => exact reaches_of_run (reaching_sendWaiting _) hsent
  | case3 inbound b out c out' hsent => exact reaches_of_run (reaching_sendWaiting _) hsent
  | case4 inbound b out c out' hsent p inbound' _ e s hhandle =>
    exact (reaches_of_run (reaching_sendWaiting _) hsent).trans
      (reaches_of_run (reaching_handle p) hhandle)
  | case5 inbound b out c out' hsent p inbound' _ d out'' hhandle =>
    exact (reaches_of_run (reaching_sendWaiting _) hsent).trans
      (reaches_of_run (reaching_handle p) hhandle)
  | case6 inbound b out c out' hsent p inbound' _ d out'' hhandle _ ih =>
    exact ((reaches_of_run (reaching_sendWaiting _) hsent).trans
      (reaches_of_run (reaching_handle p) hhandle)).trans ih

end DebugWire.Backend

import DebugWire.Session.Command
import DebugWire.Stream

/-!
# Session/Connection — serving one debugger

One packet at a time: read, carry out, answer.  Waiting event packets are written between the
answers, never inside one.  A connection ends when the debugger hangs up or ends the session, when
it is shut down from outside, or when something fails for good; however it ends, no thread is left
suspended.
-/

namespace DebugWire

/-- The wording of what ended a connection. -/
def ConnectionError.message : ConnectionError → String
  | .stream attempts _ => s!"transport failure after {attempts} attempts"
  | .framing error => "malformed packet framing: " ++ error.message
  | .internal reason => "internal back-end failure: " ++ reason

namespace Backend

variable {σ : Type}

/-- A backend and the stream that its answers go to. -/
abbrev Sending (σ : Type) := Attempt ConnectionError (Backend σ × Outbound)

/-- Write a packet. -/
def send (packet : Bytes) : Sending σ Unit := do
  let (b, _) ← get
  Attempt.within (·.2) (fun t s => (s.1, t)) id (Outbound.send b.settings.retryLimit.toNat packet)

/-- Write packets that wait, as many as there are on the list.  One whose writing fails is lost. -/
def sendWaiting : List Bytes → Sending σ Unit
  | [] => return
  | packet :: rest => do
      modify fun (b, out) => ({ b with queue := b.queue.tail }, out)
      send packet
      sendWaiting rest

variable [Target σ]

/-- Carry out a command and answer it. -/
def handle (p : CommandPacket) : Sending σ Unit := do
  let (b, out) ← get
  let (reply, b) := b.dispatch Command.all p.commandSet p.command p.payload
  set (b, out)
  match reply with
  | .ok reply => send (encodeReply p.id reply.code.number reply.body)
  | .error reason => throw (.internal reason)

/-- Whether a packet ends the session. -/
def isDispose (p : CommandPacket) : Bool :=
  (p.commandSet, p.command) = Command.dispose.numbers

/-- Serve commands until the connection ends. -/
def serveFrom (inbound : Inbound) (b : Backend σ) (out : Outbound) :
    Except ConnectionError Unit × Backend σ × Outbound :=
  match (sendWaiting b.queue).run (b, out) with
  | (.error e, s) => (.error e, s)
  | (.ok (), b, out) =>
    match _hreceive : (Inbound.receive b.settings.retryLimit.toNat
        b.settings.maxPacketBytes.toNat).run inbound with
    | (.error e, _) => (.error e, b, out)
    | (.ok none, _) => (.ok (), b, out)
    | (.ok (some p), inbound) =>
      match (handle p).run (b, out) with
      | (.error e, s) => (.error e, s)
      | (.ok (), b, out) =>
        if isDispose p then (.ok (), b, out) else serveFrom inbound b out
termination_by inbound.data.length
decreasing_by exact Inbound.length_data_receive _hreceive

/-- Serve a connection.  Only one is served at a time; a `shutdown` that came before ends it at
once. -/
def serve (inbound : Inbound) (out : Outbound) (shutdown : Bool) (b : Backend σ) :
    Except ConnectionError Unit × Backend σ × Outbound :=
  match b.takeOutlet with
  | none => (.error (.internal "another connection is already being served"), b, out)
  | some b =>
    let (result, b, out) :=
      if shutdown then (.ok (), b.reset, out) else serveFrom inbound b.reset out
    (result, b.releaseAll.restoreOutlet, out)

end Backend
end DebugWire

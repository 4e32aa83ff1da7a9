import DebugWire.Bytes.Cursor

/-!
# Packet — the frames around commands, replies and events

Every packet begins with eleven bytes: its length (these bytes included), an id, flags, and then
either a command set and a command or, in a reply, a code.  `Header.check` is the format's own rule:
the length covers the header and stays below a limit, and the packet is no reply.
-/

namespace DebugWire

/-- The bytes in front of the payload. -/
def headerLength : Nat := 11

/-- The flag that marks a reply. -/
def replyFlag : UInt8 := 0x80

/-- A command, as sent by either side. -/
structure CommandPacket where
  id : UInt32
  commandSet : UInt8
  command : UInt8
  payload : Bytes
deriving DecidableEq, Repr

/-- The bytes of a command. -/
def CommandPacket.encode (p : CommandPacket) : Bytes :=
  bigEndian 4 (headerLength + p.payload.length) ++ Bytes.ofUInt32 p.id ++
    [0, p.commandSet, p.command] ++ p.payload

/-- The bytes of a reply. -/
def encodeReply (id : UInt32) (code : UInt16) (payload : Bytes) : Bytes :=
  bigEndian 4 (headerLength + payload.length) ++ Bytes.ofUInt32 id ++
    [replyFlag] ++ Bytes.ofUInt16 code ++ payload

/-- What breaks the format of a packet. -/
inductive FramingError where
  | shorterThanHeader (length : Nat)
  | exceedsLimit (length limit : Nat)
  | unexpectedReply (id : UInt32)
deriving DecidableEq, Repr

/-- The wording of the error. -/
def FramingError.message : FramingError → String
  | .shorterThanHeader length => s!"packet length {length} is shorter than the header"
  | .exceedsLimit length limit => s!"packet length {length} exceeds limit {limit}"
  | .unexpectedReply id => s!"unexpected reply packet {id} from debugger"

/-- The first eleven bytes of a command. -/
structure Header where
  /-- The length of the packet, the header included. -/
  length : Nat
  id : UInt32
  flags : UInt8
  commandSet : UInt8
  command : UInt8
deriving DecidableEq, Repr

namespace Header

/-- The header that eleven bytes spell. -/
def ofBytes (bs : Bytes) : Header where
  length := ofBigEndian (bs.take 4)
  id := UInt32.ofNat (ofBigEndian ((bs.drop 4).take 4))
  flags := bs.getD 8 0
  commandSet := bs.getD 9 0
  command := bs.getD 10 0

/-- How many bytes follow the header. -/
def payloadLength (h : Header) : Nat := h.length - headerLength

/-- The rule of the format.  Of several faults the first in this order counts. -/
def check (limit : Nat) (h : Header) : Except FramingError Unit :=
  if h.length < headerLength then .error (.shorterThanHeader h.length)
  else if limit < h.length then .error (.exceedsLimit h.length limit)
  else if h.flags &&& replyFlag ≠ 0 then .error (.unexpectedReply h.id)
  else .ok ()

/-- The command that a header and its payload make. -/
def withPayload (h : Header) (payload : Bytes) : CommandPacket :=
  ⟨h.id, h.commandSet, h.command, payload⟩

end Header
end DebugWire

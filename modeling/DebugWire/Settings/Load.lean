import DebugWire.Bytes.Utf8
import DebugWire.Settings.Basic
import DebugWire.Settings.Toml.Document

/-!
# Settings/Load — settings from a document

`Settings.load` reads a document, in which every setting may be left out but none may be unknown,
and validates what it says.  A group of settings may be given as a table or as a list; in a list the
settings stand in their fixed order, and what is beyond the last is not looked at.
-/

namespace DebugWire

open Toml

namespace Settings

/-! ## Reading values -/

def asText : Node → Option String
  | .text s => some s
  | _ => none

def asBool : Node → Option Bool
  | .boolean b => some b
  | _ => none

/-- A whole number that is not negative and less than `limit`. -/
def asNat (limit : Nat) : Node → Option Nat
  | .integer n => if 0 ≤ n ∧ n < limit then some n.toNat else none
  | _ => none

def asUInt64 (node : Node) : Option UInt64 := UInt64.ofNat <$> asNat UInt64.size node

def asUInt32 (node : Node) : Option UInt32 := UInt32.ofNat <$> asNat UInt32.size node

/-! ## Reading groups -/

/-- The settings of a group by name.  A name that is not among those of the group is refused. -/
def named (names : List String) : Node → Option Entries
  | .table _ es => if es.all (·.1 ∈ names) then some es else none
  | .list elements => some (names.zip elements)
  | .tables earlier last => some (names.zip ((earlier ++ [last]).map (.table .defined)))
  | _ => none

/-- A setting of a group, `standard` if it is left out. -/
def entry {α : Type} (es : Entries) (name : String) (read : Node → Option α) (standard : α) :
    Option α :=
  match es.lookup name with
  | none => some standard
  | some node => read node

def logSettings (node : Node) : Option LogSettings := do
  let es ← named ["level", "json", "stderr", "file"] node
  let standard : LogSettings := {}
  let level ← entry es "level" asText standard.level
  let json ← entry es "json" asBool standard.json
  let stderr ← entry es "stderr" asBool standard.stderr
  let file ← entry es "file" (some <$> asText ·) standard.file
  pure { level, json, stderr, file }

def backendSettings (node : Node) : Option BackendSettings := do
  let es ← named
    ["first_id", "sweep_threshold", "io_retry_limit", "max_packet_bytes", "string_encoding"] node
  let standard : BackendSettings := {}
  let firstId ← entry es "first_id" asUInt64 standard.firstId
  let sweepThreshold ← entry es "sweep_threshold" asUInt64 standard.sweepThreshold
  let retryLimit ← entry es "io_retry_limit" asUInt32 standard.retryLimit
  let maxPacketBytes ← entry es "max_packet_bytes" asUInt64 standard.maxPacketBytes
  let stringEncoding ← entry es "string_encoding" asText standard.stringEncoding
  pure { firstId, sweepThreshold, retryLimit, maxPacketBytes, stringEncoding }

/-- The settings that a table describes. -/
def ofEntries (es : Entries) : Option Settings := do
  let es ← named ["logging", "jdwp"] (.table .defined es)
  let logging ← entry es "logging" logSettings {}
  let backend ← entry es "jdwp" backendSettings {}
  pure { logging, backend }

/-! ## Reading documents -/

/-- The settings that a document describes. -/
def load (document : String) : Except SettingsError Settings :=
  match parse document >>= ofEntries with
  | none => .error .malformed
  | some settings => do
      settings.backend.validate
      pure settings

/-- The settings in a file, if there is the file. -/
def loadFile : Option Bytes → Except SettingsError Settings
  | none => .error .unreadable
  | some bytes =>
      match Utf8.decode bytes with
      | .error _ => .error .unreadable
      | .ok document => load document

end Settings
end DebugWire

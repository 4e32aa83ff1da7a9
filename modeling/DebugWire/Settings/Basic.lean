import DebugWire.Settings.Text

/-!
# Settings/Basic — what can be configured, and which settings are usable

`BackendSettings.validate` lets a session start only with settings it can honour: text is UTF-8, the
first id is not null, and a packet may be as long as its own header.  The first fault in this order
is the one reported.
-/

namespace DebugWire

/-- How a session is tuned. -/
structure BackendSettings where
  /-- The first id that is handed out. -/
  firstId : UInt64 := 1
  /-- How many dead entries are kept before they are swept. -/
  sweepThreshold : UInt64 := 1024
  /-- How many passing failures of a transfer are retried. -/
  retryLimit : UInt32 := 3
  /-- The greatest length of a command, header included. -/
  maxPacketBytes : UInt64 := 16777216
  /-- How text is written. -/
  stringEncoding : String := "UTF-8"
deriving DecidableEq, Repr

/-- Where the log goes, and what is in it. -/
structure LogSettings where
  level : String := "info"
  json : Bool := false
  stderr : Bool := true
  file : Option String := none
deriving DecidableEq, Repr

/-- All settings. -/
structure Settings where
  logging : LogSettings := {}
  backend : BackendSettings := {}
deriving DecidableEq, Repr

/-! ## Validation -/

/-- What is wrong with settings. -/
inductive SettingsError where
  /-- The document cannot be read as text. -/
  | unreadable
  /-- The document is no settings document. -/
  | malformed
  | unsupportedEncoding (encoding : String)
  | nullFirstId
  | packetLimitTooSmall (limit : UInt64)
deriving DecidableEq, Repr

/-- The wording of what is wrong. -/
def SettingsError.message : SettingsError → String
  | .unreadable => "failed to read config file"
  | .malformed => "failed to parse toml config"
  | .unsupportedEncoding encoding =>
      "unsupported string encoding " ++ quoted encoding ++ "; only UTF-8 is available"
  | .nullFirstId => "invalid config: jdwp.first_id must be non-zero (0 is the null identifier)"
  | .packetLimitTooSmall limit =>
      "invalid config: jdwp.max_packet_bytes must cover the 11 byte packet header " ++
        s!"(got {limit})"

namespace BackendSettings

/-- Whether text is written as UTF-8. -/
def isUtf8 (s : BackendSettings) : Bool :=
  asciiLower (trimBlanks s.stringEncoding.toList) ∈ ["utf-8".toList, "utf8".toList]

/-- The settings, if a session can honour them. -/
def validate (s : BackendSettings) : Except SettingsError Unit :=
  if !s.isUtf8 then .error (.unsupportedEncoding s.stringEncoding)
  else if s.firstId = 0 then .error .nullFirstId
  else if s.maxPacketBytes < 11 then .error (.packetLimitTooSmall s.maxPacketBytes)
  else .ok ()

end BackendSettings
end DebugWire

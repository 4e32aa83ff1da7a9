import DebugWire.Bytes.BigEndian

/-!
# Bytes/Utf8 — text as UTF-8 bytes, and where ill-formed bytes go wrong

`Utf8.encode` writes a string; `Utf8.decode` accepts exactly the well-formed sequences (no overlong
form, no surrogate, nothing above U+10FFFF, no cut sequence).  The decoder takes one byte at a time:
between characters it looks at a leading byte (`Lead.of`), inside a character it holds a `Pending`,
the bounds of the next byte and the bits so far.  A refusal names the length of the longest
well-formed part in front of it (`Fault`).
-/

namespace DebugWire.Utf8

/-- Why bytes are not UTF-8.  `after` is the length of the well-formed part in front. -/
inductive Fault where
  /-- The input ends inside a character that is well formed so far. -/
  | incomplete (after : Nat)
  /-- The next `length` bytes begin no character. -/
  | invalid (length after : Nat)
deriving DecidableEq, Repr

/-- The length of the well-formed part in front. -/
def Fault.after : Fault → Nat
  | .incomplete after => after
  | .invalid _ after => after

/-- The wording of a fault. -/
def Fault.message : Fault → String
  | .incomplete after => s!"incomplete utf-8 byte sequence from index {after}"
  | .invalid length after => s!"invalid utf-8 sequence of {length} bytes from index {after}"

/-- A character that is not complete yet. -/
structure Pending where
  /-- How many of its bytes were read. -/
  seen : Nat
  /-- How many bytes follow the next one. -/
  owed : Nat
  /-- The least value of the next byte. -/
  low : Nat
  /-- The greatest value of the next byte. -/
  high : Nat
  /-- The bits read so far. -/
  bits : Nat
deriving DecidableEq, Repr

/-- What a leading byte announces. -/
inductive Lead where
  /-- The byte is a whole character. -/
  | whole
  /-- More bytes belong to the character. -/
  | opens (p : Pending)
  /-- No character begins with the byte. -/
  | refused
deriving DecidableEq, Repr

/-- The leading bytes.  E0, ED, F0 and F4 narrow the byte that follows: this is what keeps overlong
forms, surrogates and values above U+10FFFF out. -/
def Lead.of (b : Nat) : Lead :=
  if b < 0x80 then .whole
  else if b < 0xC2 then .refused
  else if b < 0xE0 then .opens ⟨1, 0, 0x80, 0xBF, b - 0xC0⟩
  else if b = 0xE0 then .opens ⟨1, 1, 0xA0, 0xBF, 0⟩
  else if b = 0xED then .opens ⟨1, 1, 0x80, 0x9F, 0xD⟩
  else if b < 0xF0 then .opens ⟨1, 1, 0x80, 0xBF, b - 0xE0⟩
  else if b = 0xF0 then .opens ⟨1, 2, 0x90, 0xBF, 0⟩
  else if b < 0xF4 then .opens ⟨1, 2, 0x80, 0xBF, b - 0xF0⟩
  else if b = 0xF4 then .opens ⟨1, 2, 0x80, 0x8F, 4⟩
  else .refused

/-- Read characters to the end of the bytes.  `after` bytes of well-formed text lie in front of the
character being read. -/
def scan : Nat → Option Pending → Bytes → Except Fault (List Char)
  | _, none, [] => .ok []
  | after, some _, [] => .error (.incomplete after)
  | after, none, b :: rest =>
      match Lead.of b.toNat with
      | .whole => (Char.ofNat b.toNat :: ·) <$> scan (after + 1) none rest
      | .opens p => scan after (some p) rest
      | .refused => .error (.invalid 1 after)
  | after, some p, b :: rest =>
      if p.low ≤ b.toNat ∧ b.toNat ≤ p.high then
        let bits := p.bits * 64 + b.toNat % 64
        match p.owed with
        | 0 => (Char.ofNat bits :: ·) <$> scan (after + p.seen + 1) none rest
        | owed + 1 => scan after (some ⟨p.seen + 1, owed, 0x80, 0xBF, bits⟩) rest
      else .error (.invalid p.seen after)

/-- The text that the bytes spell. -/
def decode (bs : Bytes) : Except Fault String :=
  String.ofList <$> scan 0 none bs

/-- The bytes of a text. -/
def encode (s : String) : Bytes :=
  s.toList.flatMap String.utf8EncodeChar

@[simp] theorem encode_empty : encode "" = [] := rfl

end DebugWire.Utf8

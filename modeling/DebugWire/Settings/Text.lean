import DebugWire.Settings.Unseen

/-!
# Settings/Text — how settings that are text are compared and shown

Settings are compared without the blanks around them and with ASCII letters in lower case.  In a
message a setting stands between quotes, with everything escaped that would not show.
-/

namespace DebugWire

/-! ## Comparing -/

/-- The characters around a text that do not count: Unicode's white space. -/
def isBlank (c : Char) : Bool :=
  let n := c.toNat
  (0x9 ≤ n && n ≤ 0xD) || n = 0x20 || n = 0x85 || n = 0xA0 || n = 0x1680 ||
    (0x2000 ≤ n && n ≤ 0x200A) || n = 0x2028 || n = 0x2029 || n = 0x202F || n = 0x205F ||
    n = 0x3000

/-- The text without blanks at its ends. -/
def trimBlanks (s : List Char) : List Char :=
  ((s.dropWhile isBlank).reverse.dropWhile isBlank).reverse

/-- ASCII letters in lower case. -/
def asciiLower (s : List Char) : List Char := s.map Char.toLower

/-! ## Showing -/

/-- A character as it is shown between quotes. -/
def shown : Char → String
  | '"' => "\\\""
  | '\\' => "\\\\"
  | '\n' => "\\n"
  | '\t' => "\\t"
  | '\r' => "\\r"
  | '\x00' => "\\0"
  | c =>
      if isUnseen c then
        "\\u\x7b" ++ String.ofList (Nat.toDigits 16 c.toNat) ++ "\x7d"
      else c.toString

/-- A text between quotes, with what would not show escaped. -/
def quoted (s : String) : String := "\"" ++ s.foldl (fun t c => t ++ shown c) "" ++ "\""

end DebugWire

import DebugWire.Settings.Toml.Scan

/-!
# Settings/Toml/Text — blanks, comments, strings and keys

Only a tab and a space are blanks, and only a line feed, alone or after a carriage return, ends a
line.  No other control character may stand anywhere in a document.

A quoted string ends at the next quote; a long one, in triple quotes, at the next three, of which up
to two more in front belong to the string.  In double quotes a backslash escapes.
-/

namespace DebugWire.Toml

open Scan

/-! ## Between the words -/

def isBlank (c : Char) : Bool := c = ' ' || c = '\t'

/-- Whether a character may stand in a line. -/
def isPrintable (c : Char) : Bool := c = '\t' || (' ' ≤ c && c.toNat != 0x7F)

def blanks : Scan Unit := discard (run isBlank)

def newline : Scan Unit := char '\n' <|> (char '\r' *> char '\n')

def comment : Scan Unit := char '#' *> discard (run isPrintable)

/-- The end of a line, which the last one need not have. -/
def lineEnd : Scan Unit := newline <|> done

/-- What may follow in a line when all is said. -/
def trailing : Scan Unit := blanks *> discard (maybe comment) *> lineEnd

/-- Lines without content, and the blanks in front of content. -/
def filler : Scan Unit :=
  blanks *> discard (many ((newline <|> (comment *> lineEnd)) *> blanks))

/-! ## Strings -/

def isHexDigit (c : Char) : Bool := c.isDigit || ('a' ≤ c && c ≤ 'f') || ('A' ≤ c && c ≤ 'F')

/-- The value of a digit, in bases up to sixteen. -/
def digitValue (c : Char) : Nat :=
  if c.isDigit then c.toNat - '0'.toNat else c.toLower.toNat - 'a'.toNat + 10

/-- The number that digits spell. -/
def numeral (base : Nat) (digits : List Char) : Nat :=
  digits.foldl (fun n c => base * n + digitValue c) 0

/-- The character whose code is `length` hexadecimal digits.  A code that is no character is
refused. -/
def codePoint (length : Nat) : Scan Char := do
  let digits ← (List.replicate length ()).mapM fun _ => satisfying isHexDigit
  let n := numeral 16 digits
  guard (n.isValidChar)
  pure (Char.ofNat n)

/-- The character that a backslash stands for together with what follows it. -/
def escape : Scan Char := do
  char '\\'
  match ← satisfying fun _ => true with
  | 'b' => pure '\x08'
  | 't' => pure '\t'
  | 'n' => pure '\n'
  | 'f' => pure '\x0C'
  | 'r' => pure '\r'
  | '"' => pure '"'
  | '\\' => pure '\\'
  | 'u' => codePoint 4
  | 'U' => codePoint 8
  | _ => failure

/-- Whether a character of a string in double quotes stands for itself. -/
def isPlain (c : Char) : Bool := isPrintable c && c != '"' && c != '\\'

/-- Whether a character may stand in a string in single quotes. -/
def isVerbatim (c : Char) : Bool := isPrintable c && c != '\''

def quotedString : Scan (List Char) := do
  char '"'
  let parts ← many (run1 isPlain <|> List.singleton <$> escape)
  char '"'
  pure parts.flatten

def verbatimString : Scan (List Char) := char '\'' *> run isVerbatim <* char '\''

/-- A line break behind a backslash, which is left out with all blanks and breaks that follow. -/
def foldedBreak : Scan Unit :=
  char '\\' *> blanks *> newline *> discard (many (newline <|> discard (run1 isBlank)))

/-- A long string.  A line break right after the opening quotes is no part of it. -/
def longString (quote : Char) (part : Scan (List Char)) : Scan (List Char) := do
  word [quote, quote, quote]
  let _ ← maybe newline
  let parts ← many (part <|> (fun _ => ['\n']) <$> newline <|> inner)
  let closing ← run (· = quote)
  guard (3 ≤ closing.length ∧ closing.length ≤ 5)
  pure (parts.flatten ++ closing.drop 3)
where
  inner := do
    let quotes ← run1 (· = quote)
    guard (quotes.length ≤ 2)
    pure quotes

def longQuotedString : Scan (List Char) :=
  longString '"' (run1 isPlain <|> (fun _ => []) <$> foldedBreak <|> List.singleton <$> escape)

def longVerbatimString : Scan (List Char) := longString '\'' (run1 isVerbatim)

/-- A string in any of the four forms. -/
def anyString : Scan String :=
  String.ofList <$>
    (longQuotedString <|> quotedString <|> longVerbatimString <|> verbatimString)

/-! ## Keys -/

def isBareKeyChar (c : Char) : Bool := c.isAlphanum || c = '-' || c = '_'

def simpleKey : Scan String :=
  String.ofList <$> (quotedString <|> verbatimString <|> run1 isBareKeyChar)

/-- A dotted key has fewer parts than this. -/
def keyLimit : Nat := 80

/-- The parts of a key, separated by dots. -/
def dottedKey : Scan (List String × String) := do
  let parts ← separated (blanks *> simpleKey <* blanks) (char '.')
  guard (parts.length < keyLimit)
  match parts.getLast? with
  | some last => pure (parts.dropLast, last)
  | none => failure

end DebugWire.Toml

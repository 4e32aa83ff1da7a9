import DebugWire.Settings.Toml.Text

/-!
# Settings/Toml/Number — numbers, dates and times

Integers fit into 64 bits with a sign.  Floating-point numbers, dates and times are only recognised:
nothing that can be set is one, so their values are not kept.
-/

namespace DebugWire.Toml

open Scan

/-! ## Digits -/

/-- Whether every underscore stands between two digits, and there is a digit. -/
def wellGrouped : List Char → Bool
  | [] => false
  | '_' :: _ => false
  | _ :: '_' :: rest => wellGrouped rest
  | [_] => true
  | _ :: rest => wellGrouped rest

/-- Digits that may be grouped by underscores, without these. -/
def grouped (isDigit : Char → Bool) : Scan (List Char) := do
  let cs ← run fun c => isDigit c || c = '_'
  guard (wellGrouped cs)
  pure (cs.filter (· ≠ '_'))

def decimalDigits : Scan (List Char) := grouped Char.isDigit

/-- Digits that do not begin with a superfluous zero. -/
def decimal : Scan (List Char) := do
  let digits ← decimalDigits
  guard (digits.length = 1 ∨ digits.head? ≠ some '0')
  pure digits

/-- Whether a sign says that a number is negative. -/
def sign : Scan Bool := (fun _ => true) <$> char '-' <|> (fun _ => false) <$> char '+'

/-- Whether a number is negative; without a sign it is not. -/
def optionalSign : Scan Bool := (·.getD false) <$> maybe sign

/-! ## Integers -/

/-- The integers that a document can hold. -/
def inRange (n : Int) : Bool := -9223372036854775808 ≤ n && n < 9223372036854775808

/-- The magnitude of an integer written in a base that is a power of two. -/
def radix : Scan Nat :=
  (word ['0', 'x'] *> numeral 16 <$> grouped isHexDigit) <|>
  (word ['0', 'o'] *> numeral 8 <$> grouped fun c => '0' ≤ c && c ≤ '7') <|>
  (word ['0', 'b'] *> numeral 2 <$> grouped fun c => c = '0' || c = '1')

def signedDecimal : Scan Int := do
  let negative ← optionalSign
  let n := numeral 10 (← decimal)
  pure (if negative then -n else n)

def integer : Scan Int := do
  let n ← Int.ofNat <$> radix <|> signedDecimal
  guard (inRange n)
  pure n

/-! ## Floating-point numbers -/

/-- The least number that is rounded to infinity. -/
def floatLimit : Nat := Nat.pow 2 1024 - Nat.pow 2 970

/-- Whether a decimal `digits · 10 ^ exponent` is rounded to infinity.  Numbers that are far from
the limit are told by their length. -/
def overflows (digits : List Char) (exponent : Int) : Bool :=
  let significant := digits.dropWhile (· = '0')
  let length := significant.length + exponent
  if significant.isEmpty || length < 300 then false
  else if 310 < length then true
  else
    floatLimit * Nat.pow 10 (-exponent).toNat ≤ numeral 10 significant * Nat.pow 10 exponent.toNat

/-- The number that the digits of an exponent spell.  Digits after one that takes it to `65536` or
beyond are not counted. -/
def exponentNumeral (digits : List Char) : Nat :=
  digits.foldl (fun n c => if n < 65536 then 10 * n + digitValue c else n) 0

/-- The power of ten after an `e`. -/
def exponent : Scan Int := do
  let _ ← satisfying fun c => c = 'e' || c = 'E'
  let negative ← optionalSign
  let n := exponentNumeral (← decimalDigits)
  pure (if negative then -n else n)

/-- The digits after a point. -/
def fraction : Scan (List Char) := char '.' *> decimalDigits

/-- A fraction, an exponent or both. -/
def floatTail : Scan (List Char × Int) :=
  (do
    let digits ← fraction
    pure (digits, (← maybe exponent).getD 0)) <|>
  (fun n => ([], n)) <$> exponent

/-- A floating-point number.  A positive one that is too great is refused. -/
def float : Scan Unit :=
  (do
    let negative ← optionalSign
    let front ← decimal
    let (back, shift) ← floatTail
    guard (negative || !overflows (front ++ back) (shift - back.length))) <|>
  (do
    let _ ← optionalSign
    word ['i', 'n', 'f'] <|> word ['n', 'a', 'n'])

/-! ## Dates and times -/

/-- A number of a fixed count of digits. -/
def fixed (length : Nat) : Scan Nat := do
  let digits ← (List.replicate length ()).mapM fun _ => satisfying Char.isDigit
  pure (numeral 10 digits)

/-- The days of a month. -/
def monthLength (year month : Nat) : Nat :=
  if month = 2 then
    if year % 4 = 0 ∧ (year % 100 ≠ 0 ∨ year % 400 = 0) then 29 else 28
  else if month ∈ [4, 6, 9, 11] then 30
  else 31

def date : Scan Unit := do
  let year ← fixed 4
  char '-'
  let month ← fixed 2
  char '-'
  let day ← fixed 2
  guard (1 ≤ month ∧ month ≤ 12 ∧ 1 ≤ day ∧ day ≤ monthLength year month)

/-- Hours and minutes. -/
def hourAndMinute : Scan Unit := do
  let hour ← fixed 2
  char ':'
  let minute ← fixed 2
  guard (hour ≤ 23 ∧ minute ≤ 59)

/-- The time of a day, which may have a leap second. -/
def time : Scan Unit := do
  hourAndMinute
  char ':'
  let second ← fixed 2
  guard (second ≤ 60)
  discard (maybe (char '.' *> run1 Char.isDigit))

/-- How far a time is from universal time. -/
def offset : Scan Unit :=
  discard (satisfying fun c => c = 'Z' || c = 'z') <|> (discard sign *> hourAndMinute)

/-- A date, a time or both. -/
def moment : Scan Unit :=
  (do
    date
    discard (maybe (do
      let _ ← satisfying fun c => c = 'T' || c = 't' || c = ' '
      time
      discard (maybe offset)))) <|>
  time

end DebugWire.Toml

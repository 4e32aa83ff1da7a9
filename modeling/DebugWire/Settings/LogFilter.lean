import DebugWire.Settings.Alphanumeric
import DebugWire.Settings.Basic

/-!
# Settings/LogFilter — what the log lets through

A filter is a list of directives, written with commas between them: `target=level` lets the events
of a target through up to a level, a level alone is meant for all targets, a target alone for all
levels, and `target[span]=level` for what happens in a span.  Of two directives for the same target
and span the later counts.  The more specific come first, so that the first one that applies is the
one that counts.

`LogFilter.effective` joins what the settings and the environment ask for.  What is not understood
gives way to what is.
-/

namespace DebugWire

/-- How much is let through. -/
inductive LogLevel where
  | off | error | warn | info | debug | trace
deriving DecidableEq, Repr

namespace LogLevel

def all : List LogLevel := [.off, .error, .warn, .info, .debug, .trace]

def name : LogLevel → String
  | .off => "off"
  | .error => "error"
  | .warn => "warn"
  | .info => "info"
  | .debug => "debug"
  | .trace => "trace"

/-- The number that a text spells; a plus sign may stand in front. -/
def number? (s : List Char) : Option Nat :=
  let digits := if s.head? = some '+' then s.tail else s
  if digits.isEmpty || !digits.all Char.isDigit then none
  else some (digits.foldl (fun n c => 10 * n + (c.toNat - '0'.toNat)) 0)

/-- The level of a name, in whatever case, or of a number. -/
def parse? (s : List Char) : Option LogLevel :=
  match number? s with
  | some n => all[n]?
  | none => all.find? (·.name.toList = asciiLower s)

theorem mem_all (l : LogLevel) : l ∈ all := by cases l <;> decide

theorem parse?_name (l : LogLevel) : parse? l.name.toList = some l := by cases l <;> decide

end LogLevel

/-- What is let through of a target, or of every target, and of a span of it, or of all there is. -/
structure LogDirective where
  target : Option String
  span : Option String
  level : LogLevel
deriving DecidableEq, Repr

namespace LogDirective

/-- The text of a directive. -/
def text (d : LogDirective) : String :=
  match d.target, d.span with
  | none, none => d.level.name
  | target, none => target.getD "" ++ "=" ++ d.level.name
  | target, some span => target.getD "" ++ "[" ++ span ++ "]=" ++ d.level.name

/-- Whether a directive may begin with a character. -/
def opens (c : Char) : Bool := isAlphanumeric c || c ∈ ['-', ':', '_', '[']

/-- The level that is written after an equals sign.  None is all levels. -/
def level? : List Char → Option LogLevel
  | [] => some .trace
  | s => LogLevel.parse? s

/-- The directive for a target and what is written from the bracket of a span on. -/
def ofSpan? (target : List Char) (s : List Char) : Option LogDirective := do
  let (span, rest) := s.span (· ≠ ']')
  guard ('{' ∉ span)
  let target := if target.isEmpty then none else some (String.ofList target)
  let level ←
    match rest with
    | ']' :: '=' :: level => level? level
    | ']' :: rest => if rest.all isBlank then some .trace else none
    | _ => none
  pure ⟨target, some (String.ofList span), level⟩

/-- The directive that a text spells, if it begins well.  What is no level is a target.  Blanks in
front are part of a target, which then stands alone. -/
def parse? (s : List Char) : Option LogDirective := do
  guard ((trimBlanks s).head?.any opens)
  match s.span (fun c => c ≠ '=' && c ≠ '[') with
  | (front, []) =>
      match LogLevel.parse? front with
      | some level => some ⟨none, none, level⟩
      | none => some ⟨some (String.ofList front), none, .trace⟩
  | (front, mark :: back) =>
      guard (s.head?.any opens)
      if mark = '[' then ofSpan? front back
      else (⟨some (String.ofList front), none, ·⟩) <$> level? back

/-- Whether two directives are meant for the same. -/
def sameScope (d e : LogDirective) : Bool := d.target = e.target && d.span = e.span

/-- Whether a text comes before another: the longer first, then the one later in the alphabet, and
no text last. -/
def textPrecedes : Option String → Option String → Bool
  | some t, some u =>
      u.utf8ByteSize < t.utf8ByteSize || (t.utf8ByteSize = u.utf8ByteSize && decide (u < t))
  | some _, none => true
  | none, _ => false

/-- Whether `d` comes before `e`.  Directives for spans come after the others.  Within either kind
longer targets come first, then those later in the alphabet, and what is meant for all targets
comes last.  Of two spans of a target the one later in the alphabet comes first. -/
def precedes (d e : LogDirective) : Bool :=
  match d.span, e.span with
  | some _, none => false
  | none, some _ => true
  | none, none => textPrecedes d.target e.target
  | some s, some t => textPrecedes d.target e.target || (d.target = e.target && decide (t < s))

end LogDirective

/-- Directives, the more specific first. -/
abbrev LogFilter := List LogDirective

namespace LogFilter

/-- The text of a filter. -/
def text (f : LogFilter) : String :=
  ",".intercalate (f.map LogDirective.text)

/-- Add a directive in its place.  It replaces the one that is meant for the same. -/
def add (d : LogDirective) (f : LogFilter) : LogFilter :=
  let others := f.filter (!d.sameScope ·)
  others.filter (·.precedes d) ++ d :: others.filter (!·.precedes d)

/-- The parts of a text between commas. -/
def parts : List Char → List (List Char)
  | [] => [[]]
  | ',' :: s => [] :: parts s
  | c :: s =>
      match parts s with
      | part :: rest => (c :: part) :: rest
      | [] => [[c]]

/-- The filter that a text spells.  Parts without a character count for nothing. -/
def parse? (s : List Char) : Option LogFilter := do
  let ds ← ((parts s).filter (!·.isEmpty)).mapM LogDirective.parse?
  pure (ds.foldl (fun f d => f.add d) [])

/-- The directives that a configured level stands for: a plain level or directives. -/
def directives (level : String) : List Char :=
  let s := trimBlanks level.toList
  if s.isEmpty then LogLevel.info.name.toList
  else if asciiLower s = "warning".toList then LogLevel.warn.name.toList
  else
    match [LogLevel.trace, .debug, .info, .warn, .error].find? (·.name.toList = asciiLower s) with
    | some l => l.name.toList
    | none => s

/-- The filter for a configured level alone. -/
def configured (level : String) : LogFilter :=
  (parse? (directives level)).getD [⟨none, none, .info⟩]

/-- The filter for a configured level and what the environment adds to it. -/
def effective (level : String) (environment : Option String) : LogFilter :=
  let added := trimBlanks (environment.getD "").toList
  if added.isEmpty then configured level
  else
    (parse? (directives level ++ ',' :: added) <|> parse? added).getD (configured level)

end LogFilter
end DebugWire

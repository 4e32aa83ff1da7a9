/-!
# Settings/Toml/Scan — reading characters from the front of a text

A `Scan α` reads a value from the front of a text and leaves the rest, or refuses; after a refusal
the alternative `<|>` starts from where the refused one did.

A repetition takes the text that is left as its fuel: a scan that reads at least one character each
time cannot succeed more often than there are characters.
-/

namespace DebugWire.Toml

/-- What reads a value from the front of a text. -/
abbrev Scan := StateT (List Char) Option

namespace Scan

variable {α β : Type}

/-- One character that satisfies a condition. -/
def satisfying (p : Char → Bool) : Scan Char := fun
  | c :: rest => if p c then some (c, rest) else none
  | [] => none

/-- The character `c`. -/
def char (c : Char) : Scan Unit := discard (satisfying (· = c))

/-- The characters of a word, one after the other. -/
def word : List Char → Scan Unit
  | [] => pure ()
  | c :: cs => char c *> word cs

/-- As many characters as satisfy a condition. -/
def run (p : Char → Bool) : Scan (List Char) := fun s => some (s.span p)

/-- As many characters as satisfy a condition, at least one. -/
def run1 (p : Char → Bool) : Scan (List Char) := do
  let cs ← run p
  guard !cs.isEmpty
  pure cs

/-- The end of the text. -/
def done : Scan Unit := fun s => if s.isEmpty then some ((), s) else none

/-- What a scan reads, unless it refuses. -/
def maybe (p : Scan α) : Scan (Option α) := some <$> p <|> pure none

/-- What a scan reads before it refuses, after what is in `done` already.  Each reading takes one
character of `fuel`. -/
def manyFrom (p : Scan α) : (fuel : List Char) → (done : List α) → Scan (List α)
  | [], done => pure done.reverse
  | _ :: fuel, done => fun s =>
      match p s with
      | some (a, rest) => manyFrom p fuel (a :: done) rest
      | none => some (done.reverse, s)

/-- What a scan reads before it refuses. -/
def many (p : Scan α) : Scan (List α) := fun s => manyFrom p s [] s

/-- One reading or more, with a separator between any two. -/
def separated (p : Scan α) (separator : Scan Unit) : Scan (List α) := do
  let a ← p
  let as ← many (separator *> p)
  pure (a :: as)

/-- What a scan that reads the whole text makes of it. -/
def whole (p : Scan α) (text : List Char) : Option α :=
  (p <* done) text |>.map (·.1)

end Scan
end DebugWire.Toml

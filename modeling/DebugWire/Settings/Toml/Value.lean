import DebugWire.Settings.Toml.Number

/-!
# Settings/Toml/Value — values and tables

A table remembers how it came to be (`Origin`), because that decides how it may grow: a dotted key
may add to a table that other dotted keys made, a heading may define a table that was only passed
through, and a table that stands in a value is closed.
-/

namespace DebugWire.Toml

/-- How a table came to be. -/
inductive Origin where
  /-- A heading defines it. -/
  | defined
  /-- A heading of a table inside it implies it. -/
  | implied
  /-- A dotted key made it. -/
  | dotted
  /-- It stands in a value, between braces. -/
  | written
deriving DecidableEq, Repr

/-- A value of a document. -/
inductive Node where
  | text (s : String)
  | integer (n : Int)
  | boolean (b : Bool)
  /-- A floating-point number, a date or a time. -/
  | other
  | list (elements : List Node)
  | table (origin : Origin) (entries : List (String × Node))
  /-- Tables that headings add one by one: all but the last, and the last. -/
  | tables (earlier : List (List (String × Node))) (last : List (String × Node))

/-- The entries of a table, each key once. -/
abbrev Entries := List (String × Node)

namespace Entries

/-- Give a key that is present another value. -/
def replace (key : String) (value : Node) (es : Entries) : Entries :=
  es.map fun (k, v) => (k, if k = key then value else v)

/-- Add a value under a key, in the table that the dotted keys of `path` lead to.  A table that is
defined elsewhere is not added to, and no value is replaced. -/
def assign : List String → String → Node → Entries → Option Entries
  | [], key, value, es => if (es.lookup key).isSome then none else some (es ++ [(key, value)])
  | part :: path, key, value, es =>
      match es.lookup part with
      | none => do pure (es ++ [(part, .table .dotted (← assign path key value []))])
      | some (.table .dotted inner) => do
          pure (es.replace part (.table .dotted (← assign path key value inner)))
      | some (.table .implied inner) => do
          guard !path.isEmpty
          pure (es.replace part (.table .implied (← assign path key value inner)))
      | some (.tables earlier last) => do
          guard !path.isEmpty
          pure (es.replace part (.tables earlier (← assign path key value last)))
      | some _ => none

end Entries

/-- A key and the value assigned to it. -/
structure Assignment where
  path : List String
  key : String
  value : Node

/-- The entries with all assignments made, one after the other. -/
def Entries.assignAll (as : List Assignment) (es : Entries) : Option Entries :=
  as.foldlM (fun es a => es.assign a.path a.key a.value) es

open Scan

/-! ## The text of a value -/

/-- A key, an equals sign and a value. -/
def assignment (value : Scan Node) : Scan Assignment := do
  let (path, key) ← dottedKey
  char '='
  blanks
  let v ← value
  pure ⟨path, key, v⟩

/-- A value that holds no others. -/
def scalar : Scan Node :=
  Node.text <$> anyString <|>
  (fun _ => Node.boolean true) <$> word ['t', 'r', 'u', 'e'] <|>
  (fun _ => Node.boolean false) <$> word ['f', 'a', 'l', 's', 'e'] <|>
  (fun _ => Node.other) <$> moment <|>
  (fun _ => Node.other) <$> float <|>
  Node.integer <$> integer

/-- Values between brackets, over any number of lines; a comma may follow the last. -/
def list (value : Scan Node) : Scan Node := do
  char '['
  let elements ← maybe (separated (filler *> value <* filler) (char ',') <* maybe (char ','))
  filler
  char ']'
  pure (.list (elements.getD []))

/-- Assignments between braces, in one line. -/
def writtenTable (value : Scan Node) : Scan Node := do
  char '\x7b'
  let as ← maybe (separated (assignment value <* blanks) (char ','))
  blanks
  char '\x7d'
  match Entries.assignAll (as.getD []) [] with
  | some es => pure (.table .written es)
  | none => failure

/-- A value, inside which at most `depth` others are open at a time. -/
def value : Nat → Scan Node
  | 0 => scalar
  | depth + 1 => scalar <|> list (value depth) <|> writtenTable (value depth)

end DebugWire.Toml

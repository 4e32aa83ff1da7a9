import DebugWire.Settings.Toml.Value

/-!
# Settings/Toml/Document — documents

A document is assignments, then sections: a heading and assignments in the table it names.
`parse` reads a document as the table of all that it assigns, or refuses it.
-/

namespace DebugWire.Toml

open Scan

/-! ## Sections -/

/-- The heading of a section. -/
structure Heading where
  /-- Whether the section is one more of many under its name. -/
  repeats : Bool
  path : List String
  key : String

/-- A heading and the assignments under it. -/
structure Section where
  heading : Heading
  body : List Assignment

/-- How many values may be open at a time. -/
def nestingLimit : Nat := 79

/-- A line that assigns. -/
def assignmentLine : Scan Assignment := assignment (value nestingLimit) <* trailing <* filler

def heading : Scan Heading :=
  (do
    word ['[', '[']
    let (path, key) ← dottedKey
    word [']', ']']
    pure ⟨true, path, key⟩) <|>
  (do
    char '['
    let (path, key) ← dottedKey
    char ']'
    pure ⟨false, path, key⟩)

def tableSection : Scan Section := do
  let h ← heading
  trailing
  filler
  pure ⟨h, ← many assignmentLine⟩

/-- The assignments in front of the first heading, and the sections. -/
def document : Scan (List Assignment × List Section) := do
  let _ ← maybe (char '\uFEFF')
  filler
  let front ← many assignmentLine
  pure (front, ← many tableSection)

/-! ## Building the table -/

/-- Define the table that a heading names. -/
def Entries.define (repeats : Bool) (body : List Assignment) (key : String) (es : Entries) :
    Option Entries :=
  match es.lookup key with
  | none => do
      let inner ← Entries.assignAll body []
      pure (es ++ [(key, if repeats then .tables [] inner else .table .defined inner)])
  | some (.table .implied inner) => do
      guard !repeats
      pure (es.replace key (.table .defined (← Entries.assignAll body inner)))
  | some (.tables earlier last) => do
      guard repeats
      pure (es.replace key (.tables (earlier ++ [last]) (← Entries.assignAll body [])))
  | some _ => none

/-- Do something in the table that a path of headings leads to.  A table on the way that there is
not yet is implied; of many, the last is meant. -/
def Entries.under (f : Entries → Option Entries) : List String → Entries → Option Entries
  | [], es => f es
  | part :: path, es =>
      match es.lookup part with
      | none => do pure (es ++ [(part, .table .implied (← under f path []))])
      | some (.table .written _) => none
      | some (.table origin inner) => do
          pure (es.replace part (.table origin (← under f path inner)))
      | some (.tables earlier last) => do
          pure (es.replace part (.tables earlier (← under f path last)))
      | some _ => none

/-- Add a section. -/
def Entries.addSection (s : Section) (es : Entries) : Option Entries :=
  es.under (Entries.define s.heading.repeats s.body s.heading.key) s.heading.path

/-- The table that a document describes. -/
def parse (text : String) : Option Entries := do
  let (front, sections) ← document.whole text.toList
  let es ← Entries.assignAll front []
  sections.foldlM (fun es s => es.addSection s) es

end DebugWire.Toml

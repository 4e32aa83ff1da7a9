/-!
# Signature — type signatures and class names

`Signature.className` turns a signature (`Ljava/lang/String;`, `[[I`) into the name that class
patterns are matched with (`java.lang.String`, `int[][]`); `Signature.ofClassName` goes back for
classes.
-/

namespace DebugWire.Signature

/-- The text without its last character, if that is `c`. -/
def dropLast? (c : Char) (s : List Char) : Option (List Char) :=
  if s.getLast? = some c then some s.dropLast else none

theorem dropLast?_append_singleton (c : Char) (s : List Char) :
    dropLast? c (s ++ [c]) = some s := by
  simp [dropLast?]

/-- The separators of a signature as those of a name. -/
def dotted (s : List Char) : List Char := s.map fun c => if c = '/' then '.' else c

/-- The separators of a name as those of a signature. -/
def slashed (s : List Char) : List Char := s.map fun c => if c = '.' then '/' else c

/-- The name of a type that is no array.  What is no signature is its own name. -/
def elementName : List Char → List Char
  | 'L' :: s => dotted ((dropLast? ';' s).getD ('L' :: s))
  | 'Z' :: _ => "boolean".toList
  | 'B' :: _ => "byte".toList
  | 'C' :: _ => "char".toList
  | 'S' :: _ => "short".toList
  | 'I' :: _ => "int".toList
  | 'J' :: _ => "long".toList
  | 'F' :: _ => "float".toList
  | 'D' :: _ => "double".toList
  | 'V' :: _ => "void".toList
  | s => s

/-- The name of a type: one pair of brackets for each dimension follows that of the element. -/
def nameOf : List Char → List Char
  | '[' :: s => nameOf s ++ ['[', ']']
  | s => elementName s

/-- The name of the type with a signature. -/
def className (signature : String) : String :=
  String.ofList (nameOf signature.toList)

/-- The signature of the class with a name.  What looks like a signature is left alone. -/
def signatureOf (name : List Char) : List Char :=
  if name.head? = some 'L' ∧ name.getLast? = some ';' then name
  else 'L' :: slashed name ++ [';']

/-- The signature of the class with a name. -/
def ofClassName (name : String) : String :=
  String.ofList (signatureOf name.toList)

end DebugWire.Signature

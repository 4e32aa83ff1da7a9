/-!
# Event/Pattern — class patterns

In a pattern a `*` is special as the last character, or else as the first one: it stands for any
text. Everywhere else it stands for itself.
-/

namespace DebugWire

/-- Which names a request is meant for. -/
inductive ClassPattern where
  | any
  | startsWith (text : String)
  | endsWith (text : String)
  | exactly (text : String)
deriving DecidableEq, Repr

namespace ClassPattern

/-- The pattern that a text spells. -/
def parse (text : String) : ClassPattern :=
  let cs := text.toList
  if cs = ['*'] then .any
  else if cs.getLast? = some '*' then .startsWith (String.ofList cs.dropLast)
  else if cs.head? = some '*' then .endsWith (String.ofList cs.tail)
  else .exactly text

/-- Whether a name is meant. -/
def accepts (name : String) : ClassPattern → Bool
  | .any => true
  | .startsWith text => text.toList.isPrefixOf name.toList
  | .endsWith text => text.toList.isSuffixOf name.toList
  | .exactly text => name = text

end ClassPattern
end DebugWire

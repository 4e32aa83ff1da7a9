import DebugWire.Target.Facts

/-!
# Target/Supertypes — all supertypes of a type

The walk goes breadth first, from a type to its superclass and then to its interfaces, and asks the
target once for each type.  A type that was met before is not taken up again, so cycles and diamonds
end; since there are only `2 ^ 64` handles (`Found.length_le`), every walk does.
-/

namespace DebugWire

/-- A list of distinct numbers below `n` is not longer than `n`. -/
theorem length_le_of_nodup_of_lt : ∀ (n : Nat) (xs : List Nat), xs.Nodup → (∀ x ∈ xs, x < n) →
    xs.length ≤ n
  | 0, xs, _, h => by
      rcases xs with _ | ⟨x, xs⟩
      · simp
      · exact absurd (h x List.mem_cons_self) (Nat.not_lt_zero x)
  | n + 1, xs, hnodup, h => by
      have hlt : ∀ x ∈ xs.erase n, x < n := fun x hx => by
        have hmem := (hnodup.mem_erase_iff).mp hx
        have := h x hmem.2
        omega
      have hlen := length_le_of_nodup_of_lt n (xs.erase n) (hnodup.erase n) hlt
      have := List.length_erase (a := n) (l := xs)
      split at this <;> omega

/-- Types, each met once. -/
structure Found where
  types : List Handle
  nodup : types.Nodup

namespace Found

/-- Where a walk starts. -/
def start (type : Handle) : Found := ⟨[type], by simp⟩

/-- One type more, unless it was met before. -/
def add (f : Found) (type : Handle) : Found :=
  if h : type ∈ f.types then f
  else ⟨f.types ++ [type], by
    rw [List.nodup_append]
    exact ⟨f.nodup, by simp, by simp only [List.mem_singleton]; rintro a ha b rfl rfl; exact h ha⟩⟩

/-- Some types more. -/
def addAll (f : Found) (types : List Handle) : Found := types.foldl add f

/-- There are only so many handles. -/
theorem length_le (f : Found) : f.types.length ≤ UInt64.size := by
  have hinj : ∀ a b : Handle, a.raw.toNat = b.raw.toNat → a = b := fun a b h => by
    have := UInt64.toNat_inj.mp h
    cases a; cases b; simp_all
  have := length_le_of_nodup_of_lt UInt64.size (f.types.map fun h => h.raw.toNat)
    (List.Pairwise.map _ (fun a b hab hraw => hab (hinj a b hraw)) f.nodup)
    (fun x hx => by
      obtain ⟨h, _, rfl⟩ := List.mem_map.mp hx
      exact h.raw.toNat_lt_size)
  simpa using this

end Found

variable {σ : Type} [Target σ]

/-- Go on with the `done`-th type found. -/
def supertypesFrom (f : Found) (done : Nat) : TargetCall σ (List Handle) :=
  match h : f.types[done]? with
  | none => return f.types
  | some type => do
      let facts ← Target.typeFacts type
      supertypesFrom (f.addAll facts.supertypes) (done + 1)
termination_by UInt64.size - done
decreasing_by
  have := (List.getElem?_eq_some_iff.mp h).1
  have := f.length_le
  omega

/-- A type, then its supertypes, breadth first. -/
def supertypes (type : Handle) : TargetCall σ (List Handle) := supertypesFrom (.start type) 0

end DebugWire

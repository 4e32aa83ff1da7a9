import DebugWire.Suspension

/-!
# Proofs/Suspension — two counts that add up

What each operation does to the count of the whole target (`target`) and to those of single threads
(`own`), and when a thread is held.  A target that nothing holds is held after a policy was applied
exactly if the policy holds something (`Suspension.free_apply`).
-/

namespace DebugWire.Suspension

variable {g : Suspension} {t t' : Handle}

/-! ## The two counts -/

@[simp] theorem target_none : none.target = 0 := rfl

@[simp] theorem target_suspendAll : g.suspendAll.target = min (g.target + 1) suspensionMax := rfl

@[simp] theorem own_suspendAll : g.suspendAll.own t = g.own t := rfl

@[simp] theorem target_resumeAll : g.resumeAll.target = g.target - 1 := rfl

@[simp] theorem target_suspendThread : (g.suspendThread t).target = g.target := rfl

@[simp] theorem target_resumeThread : (g.resumeThread t).target = g.target := by
  unfold resumeThread
  split <;> rfl

/-- The thread that has none left is dropped from the counts, which reads as zero. -/
theorem own_resumeAll : g.resumeAll.own t = g.own t - 1 := by
  simp only [own, resumeAll, Std.TreeMap.getElem?_filterMap']
  cases g.threads[t]? with
  | none => rfl
  | some n =>
    simp only [Option.bind_some, Option.getD_some]
    split
    · rfl
    · simp only [Option.getD_none]
      omega

/-- Full is full: a count at its greatest stays there. -/
theorem own_suspendThread : (g.suspendThread t).own t' =
    if t' = t then min (g.own t + 1) suspensionMax else g.own t' := by
  simp only [own, suspendThread, Std.TreeMap.getElem?_insert, Std.LawfulEqCmp.compare_eq_iff_eq,
    eq_comm (a := t)]
  split <;> rfl

/-- Resuming what runs changes nothing. -/
theorem own_resumeThread : (g.resumeThread t).own t' =
    if t' = t then g.own t - 1 else g.own t' := by
  unfold resumeThread
  split
  · simp only [own, Std.TreeMap.getElem?_insert, Std.LawfulEqCmp.compare_eq_iff_eq,
      eq_comm (a := t)]
    split <;> rfl
  · next hlast =>
    simp only [own, Std.TreeMap.getElem?_erase, Std.LawfulEqCmp.compare_eq_iff_eq,
      eq_comm (a := t)]
    split
    · rw [own] at hlast
      rw [Option.getD_none]
      omega
    · rfl

/-! ## What is held -/

/-- A thread is held while one of the counts is not zero. -/
theorem isSuspended_iff : g.isSuspended t ↔ 0 < g.target + g.own t := by
  rw [isSuspended, decide_eq_true_iff, count, suspensionMax]
  omega

theorem isSuspended_suspendAll : g.suspendAll.isSuspended t := by
  rw [isSuspended_iff, target_suspendAll, suspensionMax]
  omega

theorem isSuspended_suspendThread_self : (g.suspendThread t).isSuspended t := by
  rw [isSuspended_iff, own_suspendThread, if_pos rfl, suspensionMax]
  omega

/-- Suspending one thread lets no other go. -/
theorem isSuspended_suspendThread (h : g.isSuspended t') : (g.suspendThread t).isSuspended t' := by
  by_cases ht : t' = t
  · exact ht ▸ isSuspended_suspendThread_self
  · rwa [isSuspended_iff, target_suspendThread, own_suspendThread, if_neg ht, ← isSuspended_iff]

/-- And resuming one lets no other go. -/
theorem isSuspended_resumeThread (h : g.isSuspended t') (ht : t' ≠ t) :
    (g.resumeThread t).isSuspended t' := by
  rwa [isSuspended_iff, target_resumeThread, own_resumeThread, if_neg ht, ← isSuspended_iff]

/-- No policy lets a thread go. -/
theorem isSuspended_apply (h : g.isSuspended t) (policy : SuspendPolicy) (thread : Option Handle) :
    (g.apply policy thread).isSuspended t := by
  cases policy with
  | none => exact h
  | eventThread =>
    cases thread with
    | some thread => exact isSuspended_suspendThread h
    | none => exact h
  | all => exact isSuspended_suspendAll

/-! ## What runs freely -/

/-- Nothing is held: neither the target nor any thread has a count. -/
def Free (g : Suspension) : Prop := g.target = 0 ∧ ∀ t, g.count t = 0

theorem free_none : none.Free := ⟨rfl, fun _ => rfl⟩

theorem Free.not_isSuspended (h : g.Free) (t : Handle) : ¬ g.isSuspended t := by
  rw [isSuspended, h.2 t]
  exact Bool.false_ne_true

/-- A policy holds something, where `thread` is the one that reports. -/
def holds (policy : SuspendPolicy) (thread : Option Handle) : Bool :=
  match policy with
  | .none => false
  | .eventThread => thread.isSome
  | .all => true

/-- No policy sets anything free. -/
theorem Free.of_apply {policy : SuspendPolicy} {thread : Option Handle}
    (h : (g.apply policy thread).Free) : g.Free := by
  refine ⟨?_, fun t => ?_⟩
  · have htarget := h.1
    cases policy with
    | none => exact htarget
    | eventThread => cases thread <;> exact htarget
    | all =>
      rw [apply, target_suspendAll, suspensionMax] at htarget
      omega
  · refine Decidable.by_contra fun hcount => h.not_isSuspended t ?_
    exact isSuspended_apply (decide_eq_true (Nat.pos_of_ne_zero hcount)) policy thread

/-- A thread that reports runs on exactly if nothing is held for it. -/
theorem Free.isSuspended_apply_iff (h : g.Free) (policy : SuspendPolicy) (thread : Handle) :
    (g.apply policy (some thread)).isSuspended thread ↔ holds policy (some thread) := by
  cases policy with
  | none => exact iff_of_false (h.not_isSuspended thread) Bool.false_ne_true
  | eventThread => exact iff_of_true isSuspended_suspendThread_self rfl
  | all => exact iff_of_true isSuspended_suspendAll rfl

/-- **A policy leaves everything free exactly if it holds nothing.** -/
theorem free_apply (h : g.Free) (policy : SuspendPolicy) (thread : Option Handle) :
    (g.apply policy thread).Free ↔ ¬ holds policy thread := by
  cases policy with
  | none => exact iff_of_true h Bool.false_ne_true
  | eventThread =>
    cases thread with
    | none => exact iff_of_true h Bool.false_ne_true
    | some thread =>
      refine iff_of_false (fun hfree => ?_) (absurd rfl)
      exact hfree.not_isSuspended thread isSuspended_suspendThread_self
  | all =>
    refine iff_of_false (fun hfree => ?_) (absurd rfl)
    exact hfree.not_isSuspended ⟨0⟩ isSuspended_suspendAll

end DebugWire.Suspension

namespace DebugWire.SuspendPolicy

/-- Requests that suspend nothing add up to no suspension. -/
theorem strongest_of_none {policies : List SuspendPolicy} (h : ∀ p ∈ policies, p = none) :
    strongest policies = none := by
  rw [List.eq_replicate_of_mem h, strongest]
  generalize policies.length = n
  induction n with
  | zero => rfl
  | succ n ih => exact ih

end DebugWire.SuspendPolicy

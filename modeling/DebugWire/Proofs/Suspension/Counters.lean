import DebugWire.Proofs.Suspension
import DebugWire.Session.Waiting
import Mathlib.Data.List.Induction

/-!
# Proofs/Suspension/Counters — suspensions are counted by independent counters

An operation does one thing (`Change`) to the counter of the whole target (`Operation.onTarget`),
and one thing to the counter of each thread (`Operation.onThread`).  The counts in force after any
operations are those of such counters (`target_after`, `own_after`), and a thread whose counter is
zero is absent (`Sparse`).

A thread that waits looks at the counts, and sleeps until an operation wakes it if it is held
(`Scene`).  What wakes nobody lets nobody go (`countFor_perform_pos`), so who sleeps is held
(`Scene.Watchful`), and a wait is over exactly if the thread looked once while both its counters
were zero (`exact_after`).
-/

namespace DebugWire.Suspension

/-! ## Counters -/

/-- What is in force after some operations. -/
def after (ops : List Operation) : Suspension := ops.foldl perform none

/-- What happens to a counter. -/
inductive Change where
  /-- One more, unless the counter is full. -/
  | raise
  /-- One less, unless there is none. -/
  | lower
  | clear
  | keep
deriving DecidableEq, Repr

/-- The counter after a change. -/
def Change.on : Change → Nat → Nat
  | .raise, n => min (n + 1) suspensionMax
  | .lower, n => n - 1
  | .clear, _ => 0
  | .keep, n => n

namespace Operation

/-- What happens to the counter of the whole target. -/
def onTarget : Operation → Change
  | .suspendAll => .raise
  | .apply .all _ => .raise
  | .resumeAll => .lower
  | .releaseAll => .clear
  | _ => .keep

/-- What happens to the counter of a thread. -/
def onThread (t : Handle) : Operation → Change
  | .suspendThread thread => if t = thread then .raise else .keep
  | .apply .eventThread (some thread) => if t = thread then .raise else .keep
  | .resumeThread thread => if t = thread then .lower else .keep
  | .resumeAll => .lower
  | .releaseAll => .clear
  | _ => .keep

end Operation

/-- A counter after some operations, which began at zero. -/
def counter (change : Operation → Change) (ops : List Operation) : Nat :=
  ops.foldl (fun n op => (change op).on n) 0

variable {g : Suspension} {op : Operation} {ops : List Operation} {t : Handle}

/-! ## One operation -/

/-- **One operation is one change of the counter of the target.** -/
theorem target_perform (g : Suspension) (op : Operation) :
    (g.perform op).target = op.onTarget.on g.target := by
  cases op with
  | suspendAll | resumeAll | suspendThread | releaseAll => rfl
  | resumeThread => exact target_resumeThread
  | apply policy thread =>
    cases policy with
    | none | all => rfl
    | eventThread => cases thread <;> rfl

/-- **And one change of the counter of each thread**, which for most threads is none. -/
theorem own_perform (g : Suspension) (op : Operation) (t : Handle) :
    (g.perform op).own t = (op.onThread t).on (g.own t) := by
  have hsuspend (thread : Handle) : (g.suspendThread thread).own t =
      (if t = thread then Change.raise else .keep).on (g.own t) := by
    rw [own_suspendThread]
    split
    · next h => rw [h]; rfl
    · rfl
  cases op with
  | suspendAll | releaseAll => rfl
  | resumeAll => exact own_resumeAll
  | suspendThread thread => exact hsuspend thread
  | resumeThread thread =>
    rw [perform, own_resumeThread, Operation.onThread]
    split
    · next h => rw [h]; rfl
    · rfl
  | apply policy thread =>
    cases policy with
    | none | all => rfl
    | eventThread =>
      cases thread with
      | none => rfl
      | some thread => exact hsuspend thread

/-- No thread is present that has no suspension of its own. -/
def Sparse (g : Suspension) : Prop :=
  ∀ (t : Handle) (n : Nat), g.threads[t]? = some n → 0 < n

/-- Nothing is present at the start. -/
theorem sparse_none : Sparse none := fun _ _ h => absurd h nofun

/-- The thread that comes in has one suspension at least. -/
theorem Sparse.suspendThread (h : g.Sparse) (thread : Handle) :
    (g.suspendThread thread).Sparse := by
  intro t n hn
  rw [Suspension.suspendThread, Std.TreeMap.getElem?_insert] at hn
  split at hn
  · obtain rfl := Option.some.inj hn
    rw [suspensionMax]
    omega
  · exact h t n hn

/-- A thread that loses its last suspension goes; one of several is only counted down. -/
theorem Sparse.resumeThread (h : g.Sparse) (thread : Handle) : (g.resumeThread thread).Sparse := by
  intro t n hn
  unfold Suspension.resumeThread at hn
  split at hn
  · rw [Std.TreeMap.getElem?_insert] at hn
    split at hn
    · obtain rfl := Option.some.inj hn
      omega
    · exact h t n hn
  · rw [Std.TreeMap.getElem?_erase] at hn
    split at hn
    · exact absurd hn nofun
    · exact h t n hn

/-- Resuming all needs no hypothesis: what is left is filtered. -/
theorem sparse_resumeAll (g : Suspension) : g.resumeAll.Sparse := by
  intro t n hn
  rw [resumeAll, Std.TreeMap.getElem?_filterMap'] at hn
  obtain ⟨m, -, hm⟩ := Option.bind_eq_some_iff.mp hn
  split at hm
  · obtain rfl := Option.some.inj hm
    omega
  · exact absurd hm.symm (Option.some_ne_none n)

/-- What one operation preserves, from which `sparse_after` follows. -/
theorem Sparse.perform (h : g.Sparse) (op : Operation) : (g.perform op).Sparse := by
  cases op with
  | suspendAll => exact h
  | resumeAll => exact sparse_resumeAll g
  | suspendThread thread => exact h.suspendThread thread
  | resumeThread thread => exact h.resumeThread thread
  | releaseAll => exact sparse_none
  | apply policy thread =>
    cases policy with
    | none | all => exact h
    | eventThread =>
      cases thread with
      | none => exact h
      | some thread => exact h.suspendThread thread

/-! ## Any operations -/

/-- By induction on the operations, from any counts on. -/
theorem target_after (ops : List Operation) :
    (after ops).target = counter Operation.onTarget ops := by
  suffices ∀ g : Suspension, (ops.foldl perform g).target =
      ops.foldl (fun n op => op.onTarget.on n) g.target from this none
  induction ops with
  | nil => exact fun _ => rfl
  | cons op ops ih =>
    intro g
    rw [List.foldl_cons, List.foldl_cons, ih, target_perform]

/-- The same for a thread, whose counter does not depend on the other threads. -/
theorem own_after (ops : List Operation) (t : Handle) :
    (after ops).own t = counter (Operation.onThread t) ops := by
  suffices ∀ g : Suspension, (ops.foldl perform g).own t =
      ops.foldl (fun n op => (op.onThread t).on n) (g.own t) from this none
  induction ops with
  | nil => exact fun _ => rfl
  | cons op ops ih =>
    intro g
    rw [List.foldl_cons, List.foldl_cons, ih, own_perform]

/-- No operations make a thread present that has none. -/
theorem sparse_after (ops : List Operation) : (after ops).Sparse := by
  suffices ∀ g : Suspension, g.Sparse → (ops.foldl perform g).Sparse from this none sparse_none
  induction ops with
  | nil => exact fun _ h => h
  | cons op ops ih => exact fun _ h => ih _ (h.perform op)

/-! ## A thread that waits -/

/-- The operations among some turns. -/
def operations (turns : List Turn) : List Operation :=
  turns.filterMap fun
    | .operate op => some op
    | .look => Option.none

namespace Scene

/-- A thread sleeps only while it is held. -/
def Watchful (thread : Option Handle) (s : Scene) : Prop :=
  s.wait = .sleeps → 0 < s.gate.countFor thread

end Scene

/-- What holds a thread after some operations: the counter of the target, and its own. -/
def total (thread : Option Handle) (ops : List Operation) : Nat :=
  counter Operation.onTarget ops + thread.elim 0 fun t => counter (Operation.onThread t) ops

variable {thread : Option Handle} {s : Scene}

/-- The greatest number counted caps the sum, but does not make it zero. -/
theorem countFor_eq_zero_iff :
    g.countFor thread = 0 ↔ g.target + thread.elim 0 g.own = 0 := by
  cases thread with
  | none => exact Iff.rfl
  | some t =>
    rw [countFor, count, suspensionMax, Option.elim_some]
    omega

/-- A thread is free exactly if its two counters are zero. -/
theorem countFor_after_eq_zero_iff (thread : Option Handle) (ops : List Operation) :
    (after ops).countFor thread = 0 ↔ total thread ops = 0 := by
  rw [countFor_eq_zero_iff, target_after, total]
  cases thread with
  | none => exact Iff.rfl
  | some t => rw [Option.elim_some, Option.elim_some, own_after]

/-- An operation that wakes nobody lets nobody go. -/
theorem countFor_perform_pos (h : 0 < g.countFor thread) (hwakes : op.wakes = false) :
    0 < (g.perform op).countFor thread := by
  cases thread with
  | none =>
    have htarget : 0 < g.suspendAll.target := by
      rw [target_suspendAll, suspensionMax]
      omega
    cases op with
    | suspendAll => exact htarget
    | suspendThread => exact h
    | apply policy thread =>
      cases policy with
      | none => exact h
      | eventThread => cases thread <;> exact h
      | all => exact htarget
    | resumeAll | resumeThread | releaseAll => exact absurd hwakes.symm Bool.false_ne_true
  | some t =>
    have held : g.isSuspended t := decide_eq_true h
    refine of_decide_eq_true (?_ : (g.perform op).isSuspended t)
    cases op with
    | suspendAll => exact isSuspended_suspendAll
    | suspendThread => exact isSuspended_suspendThread held
    | apply policy thread => exact isSuspended_apply held policy thread
    | resumeAll | resumeThread | releaseAll => exact absurd hwakes.symm Bool.false_ne_true

namespace Scene

/-- **A sleeper is woken by whatever may let it go.** -/
theorem Watchful.turn (h : s.Watchful thread) (t : Turn) : (s.turn thread t).Watchful thread := by
  intro hsleeps
  cases t with
  | operate op =>
    cases hwakes : op.wakes with
    | false =>
      rw [Scene.turn, hwakes] at hsleeps
      exact countFor_perform_pos (h hsleeps) hwakes
    | true =>
      rw [Scene.turn, hwakes] at hsleeps
      cases hw : s.wait with
      | looks | sleeps | ended => exact absurd (hw ▸ hsleeps) nofun
  | look =>
    cases hw : s.wait with
    | looks =>
      rw [Scene.turn, hw, Wait.look] at hsleeps
      split at hsleeps
      · exact absurd hsleeps nofun
      · next hheld => exact Nat.pos_of_ne_zero hheld
    | sleeps => exact h hw
    | ended => rw [Scene.turn, hw] at hsleeps; exact absurd hsleeps nofun

/-- The wait begins with a look, so nobody sleeps unseen. -/
theorem watchful_after (thread : Option Handle) (turns : List Turn) :
    (after thread turns).Watchful thread := by
  suffices ∀ s : Scene, s.Watchful thread → (turns.foldl (turn thread) s).Watchful thread from
    this _ nofun
  induction turns with
  | nil => exact fun _ h => h
  | cons t turns ih => exact fun _ h => ih _ (h.turn t)

/-- Looking leaves the counts alone. -/
theorem gate_after (thread : Option Handle) (turns : List Turn) :
    (after thread turns).gate = Suspension.after (operations turns) := by
  suffices ∀ s : Scene, (turns.foldl (turn thread) s).gate =
      (operations turns).foldl perform s.gate from this _
  induction turns with
  | nil => exact fun _ => rfl
  | cons t turns ih =>
    intro s
    cases t with
    | operate op => exact ih _
    | look => exact ih _

/-- The last turn is taken last, for an induction from the end. -/
theorem after_concat (thread : Option Handle) (turns : List Turn) (t : Turn) :
    after thread (turns ++ [t]) = (after thread turns).turn thread t := by
  rw [after, List.foldl_append]
  rfl

/-- A wait is over once the thread looks while nothing holds it. -/
theorem Watchful.ended_look_iff (h : s.Watchful thread) :
    (s.turn thread .look).wait = .ended ↔ s.wait = .ended ∨ s.gate.countFor thread = 0 := by
  rw [Scene.turn]
  cases hw : s.wait with
  | looks =>
    rw [Wait.look]
    split
    · next hfree => exact iff_of_true rfl (.inr hfree)
    · next hheld => exact iff_of_false nofun fun hfree => hfree.elim nofun hheld
  | sleeps =>
    have := h hw
    exact iff_of_false nofun fun hfree => hfree.elim nofun (by omega)
  | ended => exact iff_of_true rfl (.inl rfl)

/-- An operation wakes, but only a look ends a wait. -/
theorem ended_operate_iff (op : Operation) :
    (s.turn thread (.operate op)).wait = .ended ↔ s.wait = .ended := by
  rw [Scene.turn]
  cases op.wakes with
  | false => exact Iff.rfl
  | true =>
    cases s.wait with
    | looks | sleeps => exact iff_of_false nofun nofun
    | ended => exact iff_of_true rfl rfl

/-- **A wait is over exactly if the thread looked once while both its counters were zero.** -/
theorem ended_after_iff (thread : Option Handle) (turns : List Turn) :
    (after thread turns).wait = .ended ↔
      ∃ before, before ++ [.look] <+: turns ∧ total thread (operations before) = 0 := by
  induction turns using List.reverseRecOn with
  | nil => exact iff_of_false nofun fun ⟨_, hprefix, _⟩ => by simp at hprefix
  | append_singleton turns t ih =>
    simp only [List.prefix_concat_iff, or_and_right, exists_or, ← ih, after_concat]
    cases t with
    | operate op =>
      rw [ended_operate_iff]
      simp
    | look =>
      rw [(watchful_after thread turns).ended_look_iff, gate_after, countFor_after_eq_zero_iff]
      simp [or_comm]

end Scene

/-! ## The counts are exact -/

/-- **Suspensions are counted by independent counters.**  After any operations the number that a
debugger sees of a thread is the sum of two counters, that of the target and its own, up to the
greatest number counted; no thread is kept that has none of its own; a thread that waits is let go
exactly if it looks while both are zero; and so are the reports that wait. -/
theorem exact_after :
    (∀ ops t, (after ops).count t =
      min (counter Operation.onTarget ops + counter (Operation.onThread t) ops) suspensionMax) ∧
    (∀ ops, (after ops).Sparse) ∧
    (∀ thread turns, (Scene.after thread turns).wait = .ended ↔
      ∃ before, before ++ [.look] <+: turns ∧ total thread (operations before) = 0) ∧
    ∀ {σ : Type} (b : Backend σ) (ops reports waiting w),
      w ∈ (Debuggee.release ⟨{ b with suspension := after ops }, reports, waiting⟩).1 ↔
        w ∈ waiting ∧ total (some w.thread) ops = 0 := by
  refine ⟨fun ops t => ?_, sparse_after, Scene.ended_after_iff, fun b ops reports waiting w => ?_⟩
  · rw [count, target_after, own_after]
  · rw [← countFor_after_eq_zero_iff, Debuggee.release, List.mem_filter]
    simp [isSuspended, countFor]

end DebugWire.Suspension

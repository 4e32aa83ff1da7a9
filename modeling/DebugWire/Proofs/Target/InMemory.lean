import DebugWire.Proofs.Session.Keeping
import DebugWire.Target.InMemory

/-!
# Proofs/Target/InMemory — what a target that is not broken answers

As long as no fault is armed, every call is answered or reported with a code, and none arms one
(`InMemory.reports`).  A call that looks something up leaves the target as it is.
-/

namespace DebugWire

/-- The failure has a code. -/
def TargetError.Reported (e : TargetError) : Prop := e.replyCode ≠ none

namespace InMemory

open Attempt (Keeps)

variable {α : Type} {t : InMemory} {I : InMemory → Prop}

/-- A call that finds the target alive is made. -/
theorem run_guarded (h : t.fault = none) (answer : TargetCall InMemory α) :
    Attempt.run (guarded answer) t =
      if t.alive then Attempt.run answer t else (.error (.reported .vmDead), t) := by
  rw [guarded, Attempt.run_bind_of_ok (Attempt.run_get t), h]
  dsimp only
  by_cases halive : t.alive
  · rw [if_pos halive, if_pos halive]
  · rw [if_neg halive, if_neg halive]
    rfl

/-- What is not found is reported by the code of the look-up. -/
theorem run_lookUp (h : t.fault = none) (code : ReplyCode) (find : InMemory → Option α) :
    Attempt.run (lookUp code find) t =
      (if t.alive then (find t).elim (.error (.reported code)) .ok
        else .error (.reported .vmDead), t) := by
  rw [lookUp, run_guarded h]
  split
  · rw [Attempt.run_bind_of_ok (Attempt.run_get t)]
    cases find t <;> rfl
  · rfl

/-- What is answered was found. -/
theorem find_of_lookUp (h : t.fault = none) {code : ReplyCode} {find : InMemory → Option α} {a : α}
    (ha : (Attempt.run (lookUp code find) t).1 = .ok a) : find t = some a := by
  rw [run_lookUp h] at ha
  dsimp only at ha
  split at ha
  · cases hfind : find t with
    | none =>
      rw [hfind] at ha
      cases ha
    | some b =>
      rw [hfind] at ha
      exact congrArg some (Except.ok.inj ha)
  · cases ha

/-! ## Without a fault -/

variable (hI : ∀ t, I t → t.fault = none)

include hI

/-- A target that is gone reports so, and that is reported like the rest. -/
theorem keeps_guarded {answer : TargetCall InMemory α} (h : Keeps I TargetError.Reported answer) :
    Keeps I TargetError.Reported (guarded answer) := by
  intro t ht
  rw [run_guarded (hI t ht)]
  split
  · exact h t ht
  · exact ⟨ht, fun e he => Except.error.inj he ▸ nofun⟩

theorem keeps_lookUp (code : ReplyCode) (find : InMemory → Option α) :
    Keeps I TargetError.Reported (lookUp code find) := by
  refine keeps_guarded hI (Keeps.get.bind fun t => ?_)
  cases find t with
  | none => exact .throw nofun
  | some a => exact .pure a

/-- A method without the information is one more thing that is reported. -/
theorem keeps_debugInfo (method : Handle) (info : LoadedMethod → Option α) :
    Keeps I TargetError.Reported (debugInfo method info) := by
  refine keeps_guarded hI (Keeps.get.bind fun t => ?_)
  cases t.methods[method]? with
  | none => exact .throw nofun
  | some m =>
    dsimp only
    cases info m with
    | none => exact .throw nofun
    | some a => exact .pure a

omit hI

/-- Each way in which a slot cannot be read has its code: an unknown frame, an absent slot, the
wrong tag. -/
theorem reported_of_readSlot {frame : Handle} {slot : Int32} {tag : ValueTag} {e : TargetError}
    (h : t.readSlot frame slot tag = .error e) : e.Reported := by
  unfold readSlot at h
  grind [TargetError.Reported, TargetError.replyCode]

/-- The same for a field of an object. -/
theorem reported_of_readField {object field : Handle} {e : TargetError}
    (h : t.readField object field = .error e) : e.Reported := by
  unfold readField at h
  grind [TargetError.Reported, TargetError.replyCode]

/-- And for a region of an array, whose bounds the target checks again. -/
theorem reported_of_readRegion {array : Handle} {first length : Nat} {e : TargetError}
    (h : t.readRegion array first length = .error e) : e.Reported := by
  unfold readRegion at h
  grind [TargetError.Reported, TargetError.replyCode]

/-- A new string is the only change that a call makes, and it arms nothing. -/
theorem fault_addString (text : String) (t : InMemory) :
    ((addString text).run t).2.fault = t.fault := by
  have htype (signature : String) : ((typeNamed signature).run t).2.fault = t.fault := by
    simp only [typeNamed, StateT.run_bind, StateT.run_get, pure_bind]
    cases t.bySignature[signature]? <;> rfl
  exact htype "Ljava/lang/String;"

/-- **Without a fault every call is answered or reported**, and no fault is armed. -/
theorem reports {x : TargetCall InMemory α} (hx : Target.Asks x) :
    Keeps (·.fault = none) TargetError.Reported x := by
  have hI : ∀ t : InMemory, t.fault = none → t.fault = none := fun _ h => h
  cases hx with
  | allClasses | allThreads | topLevelGroups =>
    exact keeps_guarded hI (Keeps.get.bind fun _ => .pure _)
  | lineTable method => exact keeps_debugInfo hI method _
  | variableTable method => exact keeps_debugInfo hI method _
  | frameValue frame slot tag =>
    exact keeps_guarded hI (Keeps.get.bind fun _ => .ofExcept fun _ => reported_of_readSlot)
  | fieldValue object field =>
    exact keeps_guarded hI (Keeps.get.bind fun _ => .ofExcept fun _ => reported_of_readField)
  | arrayValues array first length =>
    exact keeps_guarded hI (Keeps.get.bind fun _ => .ofExcept fun _ => reported_of_readRegion)
  | createString text =>
    exact keeps_guarded hI (.ofStep fun t ht => (fault_addString text t).trans ht)
  | _ => exact keeps_lookUp hI _ _

/-! ## Alive, and without a fault -/

/-- The target is neither dead nor broken. -/
structure Working (t : InMemory) : Prop where
  alive : t.alive = true
  unbroken : t.fault = none

namespace Working

variable (h : t.Working)

include h

theorem isAlive : Target.isAlive t = true := h.alive

/-- With the target working, the guard is no step. -/
theorem run_guarded (answer : TargetCall InMemory α) :
    Attempt.run (guarded answer) t = Attempt.run answer t := by
  rw [InMemory.run_guarded h.unbroken, if_pos h.alive]

/-- So a look-up is as simple as the finding itself. -/
theorem run_lookUp (code : ReplyCode) (find : InMemory → Option α) :
    Attempt.run (lookUp code find) t = ((find t).elim (.error (.reported code)) .ok, t) := by
  rw [InMemory.run_lookUp h.unbroken, if_pos h.alive]

/-- What is in the tables is answered. -/
theorem run_lookUp_of_find {code : ReplyCode} {find : InMemory → Option α} {a : α}
    (ha : find t = some a) : Attempt.run (lookUp code find) t = (.ok a, t) := by
  rw [h.run_lookUp, ha]
  rfl

/-- A loaded method is asked for a part that may be absent. -/
theorem run_debugInfo {method : Handle} {m : LoadedMethod} (hm : t.methods[method]? = some m)
    (info : LoadedMethod → Option α) : Attempt.run (debugInfo method info) t =
      ((info m).elim (.error (.reported .absentInformation)) .ok, t) := by
  rw [debugInfo, h.run_guarded, Attempt.run_bind_of_ok (Attempt.run_get t), hm]
  dsimp only
  cases info m <;> rfl

theorem run_typeFacts {type : Handle} {l : LoadedType} (hl : t.types[type]? = some l) :
    Attempt.run (Target.typeFacts type : TargetCall InMemory TypeFacts) t = (.ok l.facts, t) :=
  h.run_lookUp_of_find (by rw [hl]; rfl)

theorem run_methodFacts {method : Handle} {m : LoadedMethod} (hm : t.methods[method]? = some m) :
    Attempt.run (Target.methodFacts method : TargetCall InMemory MemberFacts) t =
      (.ok m.facts, t) :=
  h.run_lookUp_of_find (by rw [hm]; rfl)

end Working

end InMemory
end DebugWire

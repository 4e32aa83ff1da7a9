import DebugWire.Proofs.Registry.Lifecycle
import DebugWire.Proofs.Session.Course

/-!
# Proofs/Session/FrameLife — how long a frame id lives

The ids of frames are taken away in bulk: by `resume`, and by `resumeThread` once the thread that it
names runs, whichever threads the frames are of.  As long as neither happens, the session is not
ended and the frame is there, an id that `frames` handed out stands for its frame
(`frame_resolves`).  A thread that stays suspended does not keep the ids of its frames when another
one is let go (`frame_lost_on_resume`).
-/

namespace DebugWire

/-! ## Calls that spare an entity -/

/-- The call takes no id away from an entity that is no object. -/
def Operation.spares (handle : Handle) : Operation → Bool
  | .dispose _ | .disposeAll | .invalidateFrames => false
  | .entityFreed h => h ≠ handle
  | _ => true

theorem Operation.spares_of_registers {op : Operation} (h : op.registers) (handle : Handle) :
    op.spares handle := by
  cases op with
  | dispose | disposeAll | invalidateFrames | entityFreed => exact absurd h Bool.false_ne_true
  | _ => rfl

theorem Operation.exists_fate_of_spares {op : Operation} {e : Entry} (hop : op.spares e.handle)
    (he : ¬ e.kind.isObject) : ∃ x, op.fate e = some x := by
  cases op with
  | register | registerOptional | registerType | registerTagged | toWire =>
    exact exists_fate_of_registers rfl e
  | disposeObjects id count => exact ⟨e, if_neg fun h => he h.2⟩
  | enableCollection id => exact ⟨e, if_neg fun h => he h.2⟩
  | entityFreed handle => exact ⟨e, if_neg fun h => of_decide_eq_true hop h.symm⟩
  | dispose | disposeAll | invalidateFrames => exact absurd hop Bool.false_ne_true
  | _ => exact ⟨_, rfl⟩

namespace Registry

variable {r s : Registry}

/-- A living entry that is no object outlives calls that spare it, and keeps its kind. -/
theorem WellFormed.live_of_spares (h : r.WellFormed) {ops : List Operation} {id : WireId}
    {e : Entry} (hops : ∀ op ∈ ops, op.spares e.handle) (hroom : (r.run ops).HasRoom)
    (he : r.live? id = some e) (hobject : ¬ e.kind.isObject) :
    ∃ x, (r.run ops).live? id = some x ∧ x.handle = e.handle ∧ x.kind = e.kind := by
  have hkeep : ∀ op ∈ ops, ∀ y : Entry, y.key = e.key →
      ∃ z, op.fate y = some z ∧ z.key = e.key := by
    intro op hop y hname
    have hkind := EntityKind.eq_of_space (congrArg EntityKey.space hname) hobject
    have hhandle : y.handle = e.handle := congrArg EntityKey.handle hname
    obtain ⟨z, hz⟩ := Operation.exists_fate_of_spares (hhandle ▸ hops op hop) (hkind ▸ hobject)
    exact ⟨z, hz, (Operation.becomes_of_fate hz).key.trans hname⟩
  obtain ⟨x, hx, hkey⟩ := h.live_run hkeep hroom he rfl
  have hkind := EntityKind.eq_of_space (congrArg EntityKey.space hkey) hobject
  exact ⟨x, hx, congrArg EntityKey.handle hkey, hkind⟩

/-- An id that keeps its entry's entity and kind resolves as before, whatever is expected. -/
theorem resolve_of_kept {id : WireId} {e x : Entry} (he : r.live? id = some e)
    (hx : s.live? id = some x) (hhandle : x.handle = e.handle) (hkind : x.kind = e.kind)
    (expected : EntityKind) : s.resolve id expected = r.resolve id expected := by
  simp only [resolve, hx, he, hhandle, hkind]

end Registry

/-! ## Happenings that spare an entity -/

theorem Command.spares_of_mayCall {c : Command} {op : Operation} (h : c.mayCall op)
    (hdispose : c ≠ .dispose) (hresume : c ≠ .resume) (hthread : c ≠ .resumeThread)
    (handle : Handle) : op.spares handle := by
  cases op with
  | dispose | entityFreed => simp [mayCall, Operation.registersOther, Operation.registers] at h
  | disposeAll | invalidateFrames =>
    cases c <;> simp_all [mayCall, Operation.registersOther, Operation.registers]
  | _ => rfl

namespace Answer

variable {σ : Type}

theorem quiet_thread : (thread : Action σ Handle).Quiet := Action.quiet_entity _

/-- A thread that stays suspended leaves the table alone. -/
theorem registry_resumeThread {payload : Bytes} {b : Backend σ}
    (h : ∀ t, ((thread : Action σ Handle).perform payload b).1 = .ok t →
      (b.suspension.resumeThread t).isSuspended t) :
    (resumeThread.perform payload b).2.registry = b.registry := by
  change ∀ t, (Attempt.run thread ⟨b, .start payload⟩).1 = .ok t → _ at h
  change (Attempt.run resumeThread ⟨b, .start payload⟩).2.backend.registry = b.registry
  have hregistry := quiet_thread.registry (⟨b, .start payload⟩ : Call σ)
  have hsuspension := quiet_thread.suspension (⟨b, .start payload⟩ : Call σ)
  rw [resumeThread, Attempt.run_bind]
  rcases hrun : Attempt.run (thread : Action σ Handle) ⟨b, .start payload⟩ with ⟨e | t, c⟩
  · rw [hrun] at hregistry
    exact hregistry
  · rw [hrun] at hregistry hsuspension h
    have hsuspended : (c.backend.suspension.resumeThread t).isSuspended t :=
      hsuspension ▸ h t rfl
    simp only [Attempt.run_bind, editSuspension, Action.edit, Attempt.run_modify, isSuspended,
      Action.backend, Attempt.run_map, Attempt.run_get, Attempt.map_ok, Attempt.run_pure,
      hsuspended, Bool.not_true, Bool.false_eq_true, if_false]
    exact hregistry

end Answer

namespace Backend

variable {σ : Type} [Target σ]

/-- The thread that a payload names first, if it names one. -/
def threadIn? (b : Backend σ) (payload : Bytes) : Option Handle :=
  ((Answer.thread : Action σ Handle).perform payload b).1.toOption

/-- The happening takes no id away from an entity that is no object: the session goes on, the entity
is there, and no thread is let go. -/
def spares (handle : Handle) (b : Backend σ) : Happening σ → Bool
  | .command known commandSet command payload =>
      match b.carries? known commandSet command with
      | some .dispose | some .resume => false
      | some .resumeThread =>
          (b.threadIn? payload).all fun t => (b.suspension.resumeThread t).isSuspended t
      | _ => true
  | .freed h => h ≠ handle
  | .disposed => false
  | _ => true

/-- A thread that stays suspended leaves the table alone. -/
theorem registry_next_of_resumeThread {b : Backend σ} {known : List Command}
    {commandSet command : UInt8} {payload : Bytes}
    (hcarries : b.carries? known commandSet command = some .resumeThread)
    (h : (b.threadIn? payload).all fun t => (b.suspension.resumeThread t).isSuspended t) :
    (b.next (.command known commandSet command payload)).2.registry = b.registry := by
  have hsuspended : ∀ t, ((Answer.thread : Action σ Handle).perform payload b).1 = .ok t →
      (b.suspension.resumeThread t).isSuspended t := by
    intro t ht
    rw [threadIn?, ht] at h
    exact h
  have hmap := Action.perform_map Body.plain (Answer.resumeThread : Action σ Bytes) payload b
  rw [next_command, run_of_carries hcarries]
  exact (congrArg Backend.registry hmap).trans (Answer.registry_resumeThread hsuspended)

theorem mayCall_spares {b : Backend σ} {h : Happening σ} {handle : Handle}
    (hspares : b.spares handle h) : (b.next h).2.registry = b.registry ∨
      ∀ op, b.mayCall h op → op.spares handle := by
  cases h with
  | command known commandSet command payload =>
    cases hcarries : b.carries? known commandSet command with
    | none => exact Or.inr fun op hop => absurd hop (by simp [mayCall, hcarries])
    | some c =>
      simp only [spares, hcarries] at hspares
      by_cases hthread : c = .resumeThread
      · subst hthread
        exact Or.inl (registry_next_of_resumeThread hcarries hspares)
      · refine Or.inr fun op hop => ?_
        rw [mayCall, hcarries] at hop
        refine Command.spares_of_mayCall hop ?_ ?_ hthread handle
        · rintro rfl
          exact absurd hspares Bool.false_ne_true
        · rintro rfl
          exact absurd hspares Bool.false_ne_true
  | report occurrence => exact Or.inr fun op hop => op.spares_of_registers hop handle
  | freed h =>
    refine Or.inr fun op hop => ?_
    cases op with
    | entityFreed h' =>
      obtain rfl : h' = h := of_decide_eq_true hop
      exact hspares
    | _ => exact absurd hop Bool.false_ne_true
  | disposed => exact absurd hspares Bool.false_ne_true
  | swept =>
    refine Or.inr fun op hop => ?_
    cases op with
    | sweep => rfl
    | _ => exact absurd hop Bool.false_ne_true
  | connected | hungUp | elsewhere =>
    exact Or.inr fun op hop => absurd hop Bool.false_ne_true

/-- **One step.**  An entry that is no object outlives it. -/
theorem live_next_of_spares {b : Backend σ} {h : Happening σ} {id : WireId} {e : Entry}
    (hspares : b.spares e.handle h) (hb : b.registry.WellFormed)
    (hroom : (b.next h).2.registry.HasRoom) (he : b.registry.live? id = some e)
    (hobject : ¬ e.kind.isObject) :
    ∃ x, (b.next h).2.registry.live? id = some x ∧ x.handle = e.handle ∧ x.kind = e.kind := by
  obtain hkept | hcalls := mayCall_spares hspares
  · exact ⟨e, hkept ▸ he, rfl, rfl⟩
  · obtain ⟨named, hhands⟩ := hands_next b h
    obtain ⟨ops, hops, hregistry, -⟩ := hhands.handing
    rw [hregistry] at hroom ⊢
    exact hb.live_of_spares (fun op hop => hcalls op (hops op hop)) hroom he hobject

/-! ## Along a course -/

theorem live_after_of_spares {b : Backend σ} {hs : List (Happening σ)} {id : WireId} {e : Entry}
    (hspares : b.always (spares e.handle) hs) (hb : b.registry.WellFormed)
    (hroom : (b.after hs).registry.HasRoom) (he : b.registry.live? id = some e)
    (hobject : ¬ e.kind.isObject) :
    ∃ x, (b.after hs).registry.live? id = some x ∧ x.handle = e.handle ∧ x.kind = e.kind := by
  induction hs generalizing b e with
  | nil => exact ⟨e, he, rfl, rfl⟩
  | cons h hs ih =>
    rw [after_cons] at hroom ⊢
    obtain ⟨hspare, hrest⟩ := Bool.and_eq_true_iff.mp hspares
    have hroom' := hroom.of_later (follows_after hs (b.next h).2).later
    obtain ⟨x, hx, hhandle, hkind⟩ := live_next_of_spares hspare hb hroom' he hobject
    have hwf := (follows_next b h).wellFormed hb hroom'
    obtain ⟨y, hy, hhandle', hkind'⟩ := ih (hhandle ▸ hrest) hwf hroom hx (hkind ▸ hobject)
    exact ⟨y, hy, hhandle'.trans hhandle, hkind'.trans hkind⟩

/-- Whatever a reply to `frames` names stands for what it names, and is no object. -/
theorem live_of_frames {b : Backend σ} {known : List Command} {commandSet command : UInt8}
    {payload : Bytes} (hcarries : b.carries? known commandSet command = some .frames)
    (hb : b.registry.WellFormed)
    (hroom : (b.next (.command known commandSet command payload)).2.registry.HasRoom) {n : Naming}
    (hn : n ∈ (b.next (.command known commandSet command payload)).1.names) :
    ∃ e, (b.next (.command known commandSet command payload)).2.registry.live? n.2 = some e ∧
      e.handle = n.1 ∧ ¬ e.kind.isObject := by
  obtain ⟨named, hhands⟩ := hands_next b (.command known commandSet command payload)
  have hother : b.registry.Handing Operation.registersOther []
      (b.next (.command known commandSet command payload)).2.registry named := by
    refine hhands.handing.mono fun op hmay => ?_
    rw [mayCall, hcarries] at hmay
    simpa [Command.mayCall, Command.namesObjects] using hmay
  have hanswered : ¬ b.Refuses (.command known commandSet command payload) := by
    intro hrefuses
    rw [hhands.nothing hrefuses] at hn
    exact absurd hn List.not_mem_nil
  exact hother.live_of_others hb hroom (hhands.names hanswered ▸ hn)

/-- **What a reply to `frames` names keeps its id**, as long as it is there, the session goes on and
no thread is let go: the id stands for it, and resolves as it did right after the reply. -/
theorem frame_resolves {settings : BackendSettings} {target : σ} {b : Backend σ}
    (hnew : Backend.new settings target = .ok b) {before later : List (Happening σ)}
    {known : List Command} {commandSet command : UInt8} {payload : Bytes}
    (hcarries : (b.after before).carries? known commandSet command = some .frames)
    (hroom : (b.after
      (before ++ .command known commandSet command payload :: later)).registry.HasRoom)
    {n : Naming}
    (hn : n ∈ ((b.after before).next (.command known commandSet command payload)).1.names)
    (hspares : (b.after (before ++ [.command known commandSet command payload])).always
      (spares n.1) later) :
    (b.after (before ++ .command known commandSet command payload :: later)).registry.Resolves
        n.2 n.1 ∧
      ∀ expected,
        (b.after (before ++ .command known commandSet command payload :: later)).registry.resolve
            n.2 expected =
          (b.after (before ++ [.command known commandSet command payload])).registry.resolve
            n.2 expected := by
  have hb : b.registry.WellFormed := registry_of_new hnew ▸ Registry.WellFormed.new _ _
  rw [List.append_cons, after_append] at hroom ⊢
  have hroom' := hroom.of_later (follows_after later _).later
  have hwf := (follows_after _ b).wellFormed hb hroom'
  rw [after_snoc] at hroom hroom' hwf hspares ⊢
  have hbefore := (follows_after before b).wellFormed hb
    (hroom'.of_later (follows_next (b.after before) _).later)
  obtain ⟨e, he, hhandle, hobject⟩ := live_of_frames hcarries hbefore hroom' hn
  obtain ⟨x, hx, hsame, hkind⟩ :=
    live_after_of_spares (hhandle ▸ hspares) hwf hroom he hobject
  rw [← hhandle, ← hsame]
  exact ⟨Registry.resolves_of_live? hx, Registry.resolve_of_kept he hx hsame hkind⟩

open InMemory in
/-- Two threads, the first one with a frame. -/
def twoThreads : InMemory :=
  let build : StateM InMemory Unit := do
    let method ← addMethod (← addClass "LMain;") "main" "()V"
    let group ← addThreadGroup "main" none
    let first ← addThread "first" group
    let _ ← addThread "second" group
    let _ ← pushFrame first method 0
  (build.run InMemory.new).2

/-- A debugger learns the ids 1 and 2 of both threads, and suspends them. -/
def suspendBoth : List (Happening InMemory) :=
  [.connected, .command Command.all 1 4 [], .command Command.all 11 2 (Bytes.ofWireId ⟨1⟩),
    .command Command.all 11 2 (Bytes.ofWireId ⟨2⟩)]

/-- It asks for all frames of the thread with the id 1. -/
def askFrames : Bytes := Bytes.ofWireId ⟨1⟩ ++ Bytes.ofInt32 0 ++ Bytes.ofInt32 (-1)

/-- The second thread is suspended again, and let go once. -/
def letGoOnce : List (Happening InMemory) :=
  [.command Command.all 11 2 (Bytes.ofWireId ⟨2⟩), .command Command.all 11 3 (Bytes.ofWireId ⟨2⟩)]

/-- The frame keeps its id while both threads stay suspended. -/
theorem frame_resolves_nested : ∃ b, Backend.new {} twoThreads = .ok b ∧
    ((⟨7⟩, ⟨3⟩) : Naming) ∈
      ((b.after suspendBoth).next (.command Command.all 11 6 askFrames)).1.names ∧
    (b.after (suspendBoth ++ .command Command.all 11 6 askFrames :: letGoOnce)).registry.Resolves
      ⟨3⟩ ⟨7⟩ := by
  have hnew : Backend.new {} twoThreads = .ok _ := rfl
  exact ⟨_, hnew, by decide +kernel, (frame_resolves (n := (⟨7⟩, ⟨3⟩)) hnew (by decide +kernel)
    (by decide +kernel) (by decide +kernel) (by decide +kernel)).1⟩

/-- **Letting another thread go takes the frame id away** of a thread that stays suspended. -/
theorem frame_lost_on_resume : ∃ b, Backend.new {} twoThreads = .ok b ∧
    ((⟨7⟩, ⟨3⟩) : Naming) ∈
      ((b.after suspendBoth).next (.command Command.all 11 6 askFrames)).1.names ∧
    (b.after (suspendBoth ++ [.command Command.all 11 6 askFrames])).suspension.count ⟨5⟩ = 1 ∧
    (b.after (suspendBoth ++ [.command Command.all 11 6 askFrames,
      .command Command.all 11 3 (Bytes.ofWireId ⟨2⟩)])).suspension.count ⟨5⟩ = 1 ∧
    (b.after (suspendBoth ++ [.command Command.all 11 6 askFrames,
      .command Command.all 11 3 (Bytes.ofWireId ⟨2⟩)])).registry.kindOf? ⟨3⟩ = none :=
  ⟨_, rfl, by decide +kernel, by decide +kernel, by decide +kernel, by decide +kernel⟩

end Backend

end DebugWire

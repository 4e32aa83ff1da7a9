import DebugWire.Proofs.Session.Meeting
import DebugWire.Proofs.Session.Settling
import DebugWire.Proofs.Suspension

/-!
# Proofs/Session/FrameHold — a frame id that lives has its thread held

The ids of frames are asked for while a thread is suspended, and whatever lets a thread go takes
all of them away (`Backend.frames_gone`).  So a frame id that still resolves was held by its thread
ever since (`Backend.frame_holds`), however many suspensions are nested and whichever source they
have.
-/

namespace DebugWire

variable {σ : Type}

/-! ## Frame ids are taken away in bulk -/

namespace Registry

variable {r : Registry}

/-- What resolves as a frame is one. -/
theorem frame_of_resolve {id : WireId} {frame : Handle} (h : r.resolve id .frame = .ok frame) :
    ∃ e, r.live? id = some e ∧ e.kind = .frame := by
  obtain ⟨e, he, haccepts, -⟩ := exists_of_resolve h
  exact ⟨e, he, (of_decide_eq_true haccepts).symm⟩

/-- No id stands for a frame. -/
def NoFrames (r : Registry) : Prop := ∀ id e, r.live? id = some e → e.kind ≠ .frame

theorem WellFormed.noFrames_invalidateFrames (h : r.WellFormed) : r.invalidateFrames.NoFrames := by
  intro id e he
  rw [h.evolves_invalidateFrames.live?] at he
  obtain ⟨x, -, hx⟩ := Option.bind_eq_some_iff.mp he
  split at hx
  · cases hx
  · next hkind => exact Option.some.inj hx ▸ hkind

theorem WellFormed.live?_disposeAll (h : r.WellFormed) (id : WireId) :
    r.disposeAll.live? id = none := by
  rw [h.evolves_disposeAll.live?]
  cases r.live? id <;> rfl

/-- An id that was issued before the frames were gone is not one of a frame later. -/
theorem NoFrames.ne_frame {s : Registry} (hr : r.NoFrames) (hfollows : Follows r s)
    (h : r.WellFormed) (hroom : s.HasRoom) {id : WireId} (hissued : r.Issued id) {e : Entry}
    (he : s.live? id = some e) : e.kind ≠ .frame := by
  intro hframe
  obtain ⟨x, hx, hkey⟩ := hfollows.keeps h hroom id e he hissued
  have hspace : IdSpace.of x.kind = IdSpace.of .frame := hframe ▸ congrArg EntityKey.space hkey
  exact hr id x hx (EntityKind.eq_of_space hspace Bool.false_ne_true)

end Registry

/-! ## One step -/

namespace Backend

variable {b b' : Backend σ} {payload : Bytes} {c : Command} {r : Except CommandError Body}
  {t : Handle}

/-- A command that lets a thread go takes all frame ids away. -/
theorem Settles.frames_gone (h : b.Settles payload c r b') (hb : b.registry.WellFormed)
    (hheld : b.suspension.isSuspended t) (hfree : ¬ b'.suspension.isSuspended t) :
    b'.registry.NoFrames := by
  cases h with
  | calm | unread | setRequest | clearRequest | clearBreakpoints => exact absurd hheld hfree
  | suspend => exact absurd Suspension.isSuspended_suspendAll hfree
  | suspendThread => exact absurd (Suspension.isSuspended_suspendThread hheld) hfree
  | @resumeThread thread hthread hstays =>
    by_cases ht : t = thread
    · exact absurd (ht ▸ hstays) hfree
    · exact absurd (Suspension.isSuspended_resumeThread hheld ht) hfree
  | resume | letGo => exact hb.noFrames_invalidateFrames
  | dispose =>
    intro id e he
    rw [Backend.dispose, hb.live?_disposeAll] at he
    cases he

variable [Target σ] {h : Happening σ}

/-- **Whatever lets a thread go takes all frame ids away**, the end of the connection apart. -/
theorem frames_gone (hregular : h.Regular) (hstays : h ≠ .hungUp) (hb : b.registry.WellFormed)
    (hheld : b.suspension.isSuspended t) (hfree : ¬ (b.next h).2.suspension.isSuspended t) :
    (b.next h).2.registry.NoFrames := by
  cases h with
  | command known commandSet command payload =>
    rw [next_command] at hfree ⊢
    obtain hkept | ⟨c, -, hsettles⟩ := b.kept_or_settles known commandSet command payload
    · rw [hkept] at hfree
      exact absurd hheld hfree
    · exact hsettles.frames_gone hb hheld hfree
  | report o =>
    rw [next_report, (b.announces o).suspension] at hfree
    exact absurd (Suspension.isSuspended_apply hheld _ _) hfree
  | freed | swept => exact absurd hheld hfree
  | disposed =>
    intro id e he
    rw [next, Backend.dispose, hb.live?_disposeAll] at he
    cases he
  | connected =>
    obtain ⟨outlet, disposed, hnext⟩ := b.next_connected
    rw [hnext] at hfree
    exact absurd hheld hfree
  | hungUp => exact absurd rfl hstays
  | elsewhere change =>
    obtain ⟨target, n, hchange⟩ := hregular b
    simp only [next, hchange] at hfree
    exact absurd hheld hfree

/-! ## Asking for frames -/

end Backend

namespace Answer

open DebugWire.Action

/-- The frames of a thread that runs are refused, and nothing happens. -/
theorem frames_of_running [Target σ] {payload : Bytes} {b : Backend σ} {t : Handle}
    (hthread : b.threadIn? payload = some t) (hruns : ¬ b.suspension.isSuspended t) :
    (frames.perform payload b).2 = b ∧ ∃ e, (frames.perform payload b).1 = .error e := by
  refine still_thread.run_bind (Q := fun r b' => b' = b ∧ ∃ e, r = .error e)
    (fun e => ⟨rfl, e, rfl⟩) (.start payload) fun thread hread => ?_
  obtain rfl : thread = t := by
    rw [Backend.threadIn?, perform, hread] at hthread
    exact Option.some.inj hthread
  refine (still_read _).leads (fun e => ⟨rfl, e, rfl⟩) fun start => ?_
  refine (still_read _).leads (fun e => ⟨rfl, e, rfl⟩) fun length cursor => ?_
  simp only [stackOf, isSuspended, backend, Attempt.run_bind, Attempt.run_map, Attempt.run_get,
    Attempt.map_ok, Attempt.run_pure, hruns]
  exact ⟨rfl, _, rfl⟩

end Answer

namespace Backend

variable [Target σ] {b : Backend σ} {known : List Command} {commandSet command : UInt8}
  {payload : Bytes} {t : Handle} {id : WireId}

/-- An id is issued in a step: it is written, or new. -/
def Issues (b : Backend σ) (h : Happening σ) (id : WireId) : Prop :=
  (∃ n ∈ (b.next h).1.names, n.2 = id) ∨
    id ∈ (b.next h).2.registry.issuedIds ∧ id ∉ b.registry.issuedIds

/-- Ids are issued for the frames of a suspended thread only, and it stays suspended. -/
theorem suspended_of_issues (hcarries : b.carries? known commandSet command = some .frames)
    (hthread : b.threadIn? payload = some t)
    (hissues : b.Issues (.command known commandSet command payload) id) :
    (b.next (.command known commandSet command payload)).2.suspension.isSuspended t := by
  have hsuspended : b.suspension.isSuspended t := by
    refine Decidable.by_contra fun hruns => ?_
    obtain ⟨hkept, e, herror⟩ := Answer.frames_of_running hthread hruns
    have hanswer : b.run known commandSet command payload = (.error e, b) := by
      rw [run_of_carries hcarries]
      exact Prod.ext herror hkept
    rw [Issues, next_command, hanswer] at hissues
    obtain ⟨n, hn, -⟩ | ⟨hnew, hold⟩ := hissues
    · exact absurd hn List.not_mem_nil
    · exact hold hnew
  obtain ⟨target, registry, hsame⟩ := (settles_run hcarries payload).sameSession nofun
  rw [next_command, hsame]
  exact hsuspended

/-- What is issued in a step is issued from then on. -/
theorem issued_of_issues {h : Happening σ} (hb : b.registry.WellFormed)
    (hroom : (b.next h).2.registry.HasRoom) (hissues : b.Issues h id) :
    (b.next h).2.registry.Issued id := by
  obtain ⟨n, hn, rfl⟩ | ⟨hnew, -⟩ := hissues
  · exact (names_next hb hroom n hn).issued
  · exact (Registry.mem_issuedIds hroom).mp hnew

/-! ## Along a course -/

/-- The ids of frames that live in the end have their thread held all the time. -/
theorem held_of_frame {hs : List (Happening σ)} (hregular : ∀ h ∈ hs, h.Regular)
    (hstays : ∀ h ∈ hs, h ≠ .hungUp) (hb : b.registry.WellFormed)
    (hroom : (b.after hs).registry.HasRoom) (hissued : b.registry.Issued id)
    (hheld : b.suspension.isSuspended t) {e : Entry} (he : (b.after hs).registry.live? id = some e)
    (hframe : e.kind = .frame) {mid : List (Happening σ)} (hmid : mid <+: hs) :
    (b.after mid).suspension.isSuspended t := by
  induction hs generalizing b mid with
  | nil =>
    obtain rfl := List.prefix_nil.mp hmid
    exact hheld
  | cons h hs ih =>
    rw [after_cons] at hroom he
    cases mid with
    | nil => exact hheld
    | cons h' mid =>
      obtain ⟨rfl, hrest⟩ := List.cons_prefix_cons.mp hmid
      have hlater := follows_after hs (b.next h').2
      have hroom' := hroom.of_later hlater.later
      have hwf := (follows_next b h').wellFormed hb hroom'
      have hissued' := hissued.of_later (follows_next b h').later
      rw [after_cons]
      refine ih (fun x hx => hregular x (List.mem_cons_of_mem _ hx))
        (fun x hx => hstays x (List.mem_cons_of_mem _ hx)) hwf hroom hissued' ?_ he hrest
      -- Had the thread been let go in this step, the id would be no frame's in the end.
      refine Decidable.by_contra fun hfree => ?_
      have hgone := frames_gone (hregular h' List.mem_cons_self) (hstays h' List.mem_cons_self) hb
        hheld hfree
      exact hgone.ne_frame hlater hwf hroom hissued' he hframe

/-- **A frame id that still resolves has had its thread held ever since it was issued**, as long as
the connection lasts. -/
theorem frame_holds {settings : BackendSettings} {target : σ} {b : Backend σ}
    (hnew : Backend.new settings target = .ok b) {before later : List (Happening σ)}
    (hcarries : (b.after before).carries? known commandSet command = some .frames)
    (hthread : (b.after before).threadIn? payload = some t)
    (hissues : (b.after before).Issues (.command known commandSet command payload) id)
    (hregular : ∀ h ∈ later, h.Regular) (hstays : ∀ h ∈ later, h ≠ .hungUp)
    (hroom : (b.after
      (before ++ .command known commandSet command payload :: later)).registry.HasRoom)
    {frame : Handle}
    (hresolves : (b.after
      (before ++ .command known commandSet command payload :: later)).registry.resolve id .frame =
        .ok frame)
    {mid : List (Happening σ)} (hmid : mid <+: later) :
    0 < (b.after (before ++ .command known commandSet command payload :: mid)).suspension.count
      t := by
  have hb : b.registry.WellFormed := registry_of_new hnew ▸ Registry.WellFormed.new _ _
  rw [List.append_cons, after_append] at hroom hresolves ⊢
  have hroom' := hroom.of_later (follows_after later _).later
  rw [after_snoc] at hroom hroom' hresolves ⊢
  have hbefore := (follows_after before b).wellFormed hb
    (hroom'.of_later (follows_next (b.after before) _).later)
  have hwf := (follows_next (b.after before) _).wellFormed hbefore hroom'
  obtain ⟨e, he, hframe⟩ := Registry.frame_of_resolve hresolves
  exact of_decide_eq_true (held_of_frame hregular hstays hwf hroom
    (issued_of_issues hbefore hroom' hissues) (suspended_of_issues hcarries hthread hissues) he
    hframe hmid)

/-- The first thread is suspended again and let go once; then the target is suspended. -/
def holdOn : List (Happening InMemory) :=
  [.command Command.all 11 2 (Bytes.ofWireId ⟨1⟩), .command Command.all 11 3 (Bytes.ofWireId ⟨1⟩),
    .command Command.all 1 8 []]

/-- The id 3 of a frame resolves in the end, and its thread was held in between. -/
theorem frame_holds_nested : ∃ b, Backend.new {} twoThreads = .ok b ∧
    (b.after (suspendBoth ++ .command Command.all 11 6 askFrames :: holdOn)).registry.resolve ⟨3⟩
      .frame = .ok ⟨7⟩ ∧
    0 < (b.after (suspendBoth ++
      .command Command.all 11 6 askFrames :: holdOn.take 2)).suspension.count ⟨5⟩ := by
  have hlive : ∀ b, Backend.new {} twoThreads = .ok b →
      (b.after (suspendBoth ++ .command Command.all 11 6 askFrames :: holdOn)).registry.live? ⟨3⟩ =
        some ⟨⟨3⟩, ⟨7⟩, .frame, none, 1, 0, false, false⟩ := by
    rintro b ⟨rfl⟩
    decide +kernel
  have hresolves : ∀ b, Backend.new {} twoThreads = .ok b →
      (b.after (suspendBoth ++ .command Command.all 11 6 askFrames :: holdOn)).registry.resolve ⟨3⟩
        .frame = .ok ⟨7⟩ := by
    intro b hb
    rw [Registry.resolve, hlive b hb]
    rfl
  have hnew : Backend.new {} twoThreads = .ok _ := rfl
  refine ⟨_, hnew, hresolves _ hnew, frame_holds hnew (by decide +kernel) (by decide +kernel)
    (Or.inl ⟨(⟨7⟩, ⟨3⟩), by decide +kernel, rfl⟩) ?_ ?_ (by decide +kernel) (hresolves _ hnew)
    (List.take_prefix 2 holdOn)⟩
  · simp [holdOn, Happening.Regular]
  · simp [holdOn]

end Backend
end DebugWire

import DebugWire.Proofs.Session.Connection
import DebugWire.Proofs.Session.Meeting
import DebugWire.Proofs.Suspension
import DebugWire.Session.Meanwhile
import DebugWire.Session.Waiting

/-!
# Proofs/Session/Unattended — a target whose debugger is gone

However a connection ends, and whatever is reported while it is served, nothing is suspended then.
While nobody is connected, the target stays free exactly as long as no report meets a request that
suspends (`Backend.unattended_of_serve`).  After a disposed session none does.  But requests outlive
a debugger that just hangs up: what it set can stop the target for good
(`Backend.halted_unattended`).
-/

namespace DebugWire

variable {σ : Type}

/-- What befalls a backend that nobody is connected to: reports, and what the target does. -/
def Happening.Idle : Happening σ → Prop
  | .report _ | .freed _ | .swept => True
  | .elsewhere change => (Happening.elsewhere change).Regular
  | .command .. | .disposed | .connected | .hungUp => False

/-- What is not idle is what a debugger does, or the end of a session. -/
theorem Happening.Regular.idle_or {h : Happening σ} (hregular : h.Regular) :
    h.Idle ∨ h = .disposed ∨ h = .connected ∨ h = .hungUp ∨
      ∃ known commandSet command payload, h = .command known commandSet command payload := by
  cases h with
  | report | freed | swept => exact Or.inl trivial
  | elsewhere => exact Or.inl hregular
  | disposed | connected | hungUp | command => simp

namespace Request

theorem ask_of_harmless (s : Sighting) (r : Request) (h : r.policy = .none) :
    (r.ask s).2.policy = .none := (policy_ask s r).trans h

end Request

namespace Backend

variable [Target σ] {b : Backend σ} {h : Happening σ} {hs : List (Happening σ)} {o : Occurrence}

/-- A report suspends the target, or the thread that reports. -/
def halts (b : Backend σ) : Happening σ → Bool
  | .report o => Suspension.holds (.strongest ((b.met o).map (·.policy))) o.thread?
  | _ => false

theorem not_halts_of_met_eq_nil (hmet : b.met o = []) : ¬ b.halts (.report o) := by
  rw [halts, hmet]
  exact Bool.false_ne_true

/-! ## One step -/

/-- **What an idle step does**: it is a report, or it changes the target and the table and takes
packets from the front of the queue. -/
theorem idle_cases (hidle : h.Idle) (b : Backend σ) : (∃ o, h = .report o) ∨
    b.halts h = false ∧ ∃ target registry n,
      (b.next h).2 =
        { b with target := target, registry := registry, queue := b.queue.drop n } := by
  cases h with
  | report o => exact Or.inl ⟨o, rfl⟩
  | freed | swept => exact Or.inr ⟨rfl, b.target, _, 0, rfl⟩
  | elsewhere change =>
    obtain ⟨target, n, hchange⟩ := hidle b
    refine Or.inr ⟨rfl, target, b.registry, n, ?_⟩
    rw [next, hchange]
  | command | disposed | connected | hungUp => exact hidle.elim

/-- Only reports suspend anything. -/
theorem suspension_next (hidle : h.Idle) : ∃ policy thread,
    (b.next h).2.suspension = b.suspension.apply policy thread ∧
      b.halts h = Suspension.holds policy thread := by
  obtain ⟨o, rfl⟩ | ⟨hhalts, target, registry, n, hnext⟩ := idle_cases hidle b
  · refine ⟨.strongest ((b.met o).map (·.policy)), o.thread?, ?_, rfl⟩
    rw [next_report, (b.announces o).suspension]
  · exact ⟨.none, none, by rw [hnext]; rfl, hhalts⟩

theorem free_of_next (hidle : h.Idle) (hfree : (b.next h).2.suspension.Free) :
    b.suspension.Free := by
  obtain ⟨policy, thread, hnext, -⟩ := suspension_next (b := b) hidle
  rw [hnext] at hfree
  exact hfree.of_apply

theorem free_next_iff (hidle : h.Idle) (hfree : b.suspension.Free) :
    (b.next h).2.suspension.Free ↔ ¬ b.halts h := by
  obtain ⟨policy, thread, hnext, hhalts⟩ := suspension_next (b := b) hidle
  rw [hnext, hhalts]
  exact Suspension.free_apply hfree policy thread

/-- Nobody ends a session or begins one. -/
theorem disposed_next (hidle : h.Idle) : (b.next h).2.disposed = b.disposed := by
  obtain ⟨o, rfl⟩ | ⟨-, target, registry, n, hnext⟩ := idle_cases hidle b
  · rw [next_report, (b.announces o).session]
  · rw [hnext]

/-- Requests come and go by commands only, and a report asks them. -/
theorem requests_next {P : Request → Prop} (hP : ∀ s r, P r → P (r.ask s).2) (hidle : h.Idle)
    (hall : b.requests.All P) : (b.next h).2.requests.All P := by
  obtain ⟨o, rfl⟩ | ⟨-, target, registry, n, hnext⟩ := idle_cases hidle b
  · rw [next_report]
    exact (b.announces o).requests hP hall
  · rwa [hnext]

theorem not_halts_of_disposed (hdisposed : b.disposed) : ¬ b.halts h := by
  cases h with
  | report o => exact not_halts_of_met_eq_nil (met_of_disposed hdisposed o)
  | _ => exact Bool.false_ne_true

/-- Requests that suspend nothing stop nothing. -/
theorem not_halts_of_harmless (hharmless : b.requests.All (·.policy = .none)) : ¬ b.halts h := by
  cases h with
  | report o =>
    have hnone : ∀ policy ∈ (b.met o).map (·.policy), policy = SuspendPolicy.none := by
      intro policy hpolicy
      obtain ⟨hit, hhit, rfl⟩ := List.mem_map.mp hpolicy
      obtain ⟨r, hr, heq⟩ | heq :=
        (b.announces o).from_installed Request.ask_of_harmless hharmless hit hhit <;> rw [heq]
      exact hr
    rw [halts, SuspendPolicy.strongest_of_none hnone]
    exact Bool.false_ne_true
  | _ => exact Bool.false_ne_true

/-! ## While nobody is connected -/

theorem free_of_after (hidle : ∀ h ∈ hs, h.Idle) (hfree : (b.after hs).suspension.Free) :
    b.suspension.Free := by
  induction hs generalizing b with
  | nil => exact hfree
  | cons h hs ih =>
    obtain ⟨hh, hhs⟩ := List.forall_mem_cons.mp hidle
    exact free_of_next hh (ih hhs hfree)

/-- The target stays free as long as no report stops it. -/
theorem free_after_iff (hidle : ∀ h ∈ hs, h.Idle) (hfree : b.suspension.Free) :
    (b.after hs).suspension.Free ↔ b.always (fun b h => !b.halts h) hs := by
  induction hs generalizing b with
  | nil => exact iff_of_true hfree rfl
  | cons h hs ih =>
    obtain ⟨hh, hhs⟩ := List.forall_mem_cons.mp hidle
    rw [after_cons, always, Bool.and_eq_true, Bool.not_eq_true', ← Bool.not_eq_true,
      ← free_next_iff hh hfree]
    constructor
    · intro hend
      have hnext := free_of_after hhs hend
      exact ⟨hnext, (ih hhs hnext).mp hend⟩
    · rintro ⟨hnext, hnever⟩
      exact (ih hhs hnext).mpr hnever

/-- A property that no idle step breaks, and with which no report stops the target. -/
theorem always_of_kept {P : Backend σ → Prop} (hkept : ∀ b h, h.Idle → P b → P (b.next h).2)
    (hruns : ∀ b h, P b → ¬ b.halts h) (hidle : ∀ h ∈ hs, h.Idle) (hb : P b) :
    b.always (fun b h => !b.halts h) hs := by
  induction hs generalizing b with
  | nil => rfl
  | cons h hs ih =>
    obtain ⟨hh, hhs⟩ := List.forall_mem_cons.mp hidle
    rw [always, Bool.and_eq_true, Bool.not_eq_true', ← Bool.not_eq_true]
    exact ⟨hruns b h hb, ih hhs (hkept b h hh hb)⟩

/-- **Which reports wait**: those that stop their thread. -/
theorem waits_iff {d : Debuggee σ} (hfree : d.backend.suspension.Free) :
    (∃ token, (d.notify o).1 = .waits token) ↔ d.backend.halts (.report o) ∧ o.thread?.isSome := by
  rcases hannounce : d.backend.announce o with ⟨r, b⟩
  have hannounces : d.backend.Announces o (d.backend.met o) r b := by
    simpa only [hannounce] using d.backend.announces o
  simp only [Debuggee.notify, report, hannounce]
  cases r with
  | error e =>
    exact iff_of_false nofun fun hhalts =>
      not_halts_of_met_eq_nil hannounces.hits_of_error hhalts.1
  | ok told =>
    simp only [Except.map]
    cases hthread : o.thread? with
    | none => exact iff_of_false nofun fun hhalts => absurd hhalts.2 Bool.false_ne_true
    | some thread =>
      dsimp only
      have hheld : b.suspension.isSuspended thread ↔ d.backend.halts (.report o) := by
        rw [hannounces.suspension, halts, hthread]
        exact hfree.isSuspended_apply_iff _ thread
      have hdisposed : b.disposed = d.backend.disposed := by rw [hannounces.session]
      by_cases hhalts : d.backend.halts (.report o)
      · have hattended : ¬ d.backend.disposed := fun hgone => not_halts_of_disposed hgone hhalts
        refine iff_of_true ⟨d.reports + 1, ?_⟩ ⟨hhalts, rfl⟩
        rw [if_pos ⟨hheld.mpr hhalts, by simpa [hdisposed] using hattended⟩]
      · refine iff_of_false ?_ fun hboth => hhalts hboth.1
        rw [if_neg fun hboth => hhalts (hheld.mp hboth.1)]
        exact nofun

/-- What holds of a backend whose connection is over, until the next one begins. -/
structure Unattended (b : Backend σ) : Prop where
  /-- All counts are zero exactly as long as no report stopped the target or a thread. -/
  free : ∀ hs, (∀ h ∈ hs, h.Idle) →
    ((b.after hs).suspension.Free ↔ b.always (fun b h => !b.halts h) hs)
  /-- The first reports to wait are those that stop their thread. -/
  waits : ∀ hs, (∀ h ∈ hs, h.Idle) → b.always (fun b h => !b.halts h) hs →
    ∀ (d : Debuggee σ) (o : Occurrence), d.backend = b.after hs →
      ((∃ token, (d.notify o).1 = .waits token) ↔
        d.backend.halts (.report o) ∧ o.thread?.isSome)
  /-- After a disposed session nothing is ever stopped. -/
  disposed : b.disposed → ∀ hs, (∀ h ∈ hs, h.Idle) → b.always (fun b h => !b.halts h) hs
  /-- Nor is it by requests that suspend nothing. -/
  harmless : b.requests.All (·.policy = .none) →
    ∀ hs, (∀ h ∈ hs, h.Idle) → b.always (fun b h => !b.halts h) hs

theorem Unattended.of_free (hfree : b.suspension.Free) : b.Unattended where
  free _ hidle := free_after_iff hidle hfree
  waits _ hidle hnever _ _ hd := waits_iff (hd ▸ (free_after_iff hidle hfree).mpr hnever)
  disposed hdisposed _ hidle :=
    always_of_kept (fun _ _ hh hb => (disposed_next hh).trans hb)
      (fun _ _ => not_halts_of_disposed) hidle hdisposed
  harmless hharmless _ hidle :=
    always_of_kept (fun _ _ => requests_next Request.ask_of_harmless)
      (fun _ _ => not_halts_of_harmless) hidle hharmless

/-- However a connection ends, and whatever was reported while it was served, nothing is suspended
then. -/
theorem free_of_serveWhile (houtlet : b.outlet = .free) (schedule : List (Moment σ))
    (inbound : Inbound) (out : Outbound) :
    (b.serveWhile schedule inbound out).2.1.suspension.Free := by
  rw [serveWhile, takeOutlet, houtlet]
  exact Suspension.free_none

/-- **While nobody is connected, the target stays free until a report meets a request that
suspends**, whatever the connection did, whatever happened while it was served, and however it
ended.  If nothing happened meanwhile, it was served as usual (`serveWhile_nil`,
`serveWhile_shutdown`). -/
theorem unattended_of_serve (houtlet : b.outlet = .free) (schedule : List (Moment σ))
    (inbound : Inbound) (out : Outbound) :
    (b.serveWhile schedule inbound out).2.1.Unattended :=
  .of_free (free_of_serveWhile houtlet schedule inbound out)

/-- A debugger asks that the target be stopped when a thread starts, and hangs up. -/
def stopOnStart : Inbound := ⟨[], CommandPacket.encode ⟨1, 15, 1, [6, 2, 0, 0, 0, 0]⟩, 0⟩

/-- A thread starts once the request is set. -/
def startMeanwhile : List (Moment InMemory) :=
  [⟨.nothing _, false⟩, ⟨.report (.threadStart ⟨5⟩), false⟩]

/-- The request meets the start of a thread, but not its end.  One that started while the debugger
was there was told of, and is free once it is gone. -/
theorem unattended_of_stopOnStart : ∃ b : Backend InMemory, Backend.new {} InMemory.new = .ok b ∧
    b.outlet = .free ∧
    ∃ c, (b.serveWhile startMeanwhile stopOnStart ⟨[], [], none, 0⟩).2.1 = c ∧ c.Unattended ∧
      c.nextPacketId = 2 ∧ c.always (fun b h => !b.halts h) [.report (.threadDeath ⟨7⟩)] ∧
      c.halts (.report (.threadStart ⟨7⟩)) := by
  have hruns : ∀ b, Backend.new {} InMemory.new = .ok b →
      (b.serveWhile startMeanwhile stopOnStart ⟨[], [], none, 0⟩).2.1.nextPacketId = 2 ∧
      (b.serveWhile startMeanwhile stopOnStart ⟨[], [], none, 0⟩).2.1.always
        (fun b h => !b.halts h) [.report (.threadDeath ⟨7⟩)] ∧
      (b.serveWhile startMeanwhile stopOnStart ⟨[], [], none, 0⟩).2.1.halts
        (.report (.threadStart ⟨7⟩)) := by
    rintro b ⟨rfl⟩
    decide +kernel
  have hnew : Backend.new {} InMemory.new = .ok _ := rfl
  exact ⟨_, hnew, rfl, _, rfl, unattended_of_serve rfl _ _ _, hruns _ hnew⟩

/-- The target is stopped, and the thread that starts waits, with no debugger to resume it. -/
theorem halted_unattended : ∃ b : Backend InMemory, Backend.new {} InMemory.new = .ok b ∧
    ∃ c, (b.serve stopOnStart ⟨[], [], none, 0⟩ false).2.1 = c ∧
      (Debuggee.notify (.threadStart ⟨7⟩) ⟨c, 0, []⟩).1 = .waits 1 ∧
      (c.next (.report (.threadStart ⟨7⟩))).2.suspension.target = 1 ∧
      (c.next (.report (.threadStart ⟨7⟩))).2.suspension.count ⟨7⟩ = 1 := by
  have hstops : ∀ b, Backend.new {} InMemory.new = .ok b →
      (Debuggee.notify (.threadStart ⟨7⟩)
        ⟨(b.serve stopOnStart ⟨[], [], none, 0⟩ false).2.1, 0, []⟩).1 = .waits 1 ∧
      ((b.serve stopOnStart ⟨[], [], none, 0⟩ false).2.1.next
        (.report (.threadStart ⟨7⟩))).2.suspension.target = 1 ∧
      ((b.serve stopOnStart ⟨[], [], none, 0⟩ false).2.1.next
        (.report (.threadStart ⟨7⟩))).2.suspension.count ⟨7⟩ = 1 := by
    rintro b ⟨rfl⟩
    decide +kernel
  have hnew : Backend.new {} InMemory.new = .ok _ := rfl
  exact ⟨_, hnew, _, rfl, hstops _ hnew⟩

end Backend
end DebugWire

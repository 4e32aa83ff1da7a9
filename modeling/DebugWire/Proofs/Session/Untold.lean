import DebugWire.Proofs.Session.Inquiry
import DebugWire.Proofs.Session.Meeting
import DebugWire.Session.Waiting

/-!
# Proofs/Session/Untold — a target that does not tell

A report asks the target first, and a single call that fails ends it
(`Backend.announce_of_refused`).  By then a serial is used up and the target has moved on; no
request was asked, nothing registered, suspended or queued (`Debuggee.unmoved_of_failed`).  However
many reports fail in a row, the next one finds everything as it was (`Debuggee.unmoved_of_failing`).
-/

namespace DebugWire

variable {σ : Type}

namespace Backend

/-- Nothing differs but the target and the serial of the next report. -/
structure Unmoved (b b' : Backend σ) : Prop where
  /-- Each request with its counts, whether it is enabled, and what it answered last. -/
  requests : b'.requests.byId = b.requests.byId
  nextRequest : b'.requests.nextId = b.requests.nextId
  registry : b'.registry = b.registry
  suspension : b'.suspension = b.suspension
  nextPacketId : b'.nextPacketId = b.nextPacketId
  queue : b'.queue = b.queue
  outlet : b'.outlet = b.outlet
  disposed : b'.disposed = b.disposed
  settings : b'.settings = b.settings

namespace Unmoved

variable {b b' b'' : Backend σ}

@[refl] theorem refl (b : Backend σ) : Unmoved b b := ⟨rfl, rfl, rfl, rfl, rfl, rfl, rfl, rfl, rfl⟩

theorem trans (h : Unmoved b b') (h' : Unmoved b' b'') : Unmoved b b'' where
  requests := h'.requests.trans h.requests
  nextRequest := h'.nextRequest.trans h.nextRequest
  registry := h'.registry.trans h.registry
  suspension := h'.suspension.trans h.suspension
  nextPacketId := h'.nextPacketId.trans h.nextPacketId
  queue := h'.queue.trans h.queue
  outlet := h'.outlet.trans h.outlet
  disposed := h'.disposed.trans h.disposed
  settings := h'.settings.trans h.settings

end Unmoved

/-- Whatever the target was asked, nothing came of it. -/
theorem Announces.unmoved {o : Occurrence} {hits : List Hit} {e : CommandError} {b b' : Backend σ}
    (h : Announces b o hits (.error e) b') : b.Unmoved b' := by
  cases h with
  | failed => exact ⟨rfl, rfl, rfl, rfl, rfl, rfl, rfl, rfl, rfl⟩

variable [Target σ]

variable {o : Occurrence} {b : Backend σ}

/-- A target that fails ends the report. -/
theorem announce_of_refused (hdisposed : ¬ b.disposed) {refusal : TargetError} {target : σ}
    (h : (Finding.find b.requests.nextSerial o).run b.target = (.error refusal, target)) :
    b.announce o = (.error (.ofTarget refusal),
      { b with requests := b.requests.takeSerial.2, target := target }) := by
  rw [announce, if_neg hdisposed]
  simp only [RequestTable.takeSerial, h]

/-- Once the target has told, the requests are asked, and whoever is met is told. -/
theorem announce_of_found (hdisposed : ¬ b.disposed) {f : Finding} {target : σ}
    (h : (Finding.find b.requests.nextSerial o).run b.target = (.ok f, target))
    {hits : List Hit} {requests : RequestTable}
    (hasked : b.requests.takeSerial.2.hitsOf f.sighting o.kinds = (hits, requests)) :
    b.announce o =
      if hits.isEmpty then (.ok none, { b with requests := requests, target := target })
      else
        (.ok (some (deliver f hits { b with requests := requests, target := target }).1),
          (deliver f hits { b with requests := requests, target := target }).2) := by
  simp only [RequestTable.takeSerial] at hasked
  rw [announce, if_neg hdisposed]
  simp only [RequestTable.takeSerial, h, hasked]

end Backend

namespace Debuggee

/-- Nothing differs but the target, the serial of the next report and the number of reports. -/
structure Unmoved (d d' : Debuggee σ) : Prop where
  backend : d.backend.Unmoved d'.backend
  waiting : d'.waiting = d.waiting

@[refl] theorem Unmoved.refl (d : Debuggee σ) : Unmoved d d := ⟨.refl _, rfl⟩

theorem Unmoved.trans {d d' d'' : Debuggee σ} (h : Unmoved d d') (h' : Unmoved d' d'') :
    Unmoved d d'' := ⟨h.backend.trans h'.backend, h'.waiting.trans h.waiting⟩

variable [Target σ]

/-- A call fails exactly if the report does, and leaves what the report leaves. -/
theorem notify_of_error {o : Occurrence} {d : Debuggee σ} {e : CommandError}
    (h : (d.backend.announce o).1 = .error e) :
    d.notify o = (.failed e,
      { d with backend := (d.backend.announce o).2, reports := d.reports + 1 }) := by
  have hreport : d.backend.report o = (.error e, (d.backend.announce o).2) := by
    simp only [Backend.report, h, Attempt.map_error]
  simp only [notify, hreport]

theorem announce_of_failed {o : Occurrence} {d : Debuggee σ} {e : CommandError}
    (h : (d.notify o).1 = .failed e) : (d.backend.announce o).1 = .error e := by
  rcases hannounce : d.backend.announce o with ⟨refusal | told, b⟩
  · rw [notify_of_error (congrArg Prod.fst hannounce)] at h
    exact congrArg Except.error (ReportOutcome.failed.inj h)
  · have hreport : d.backend.report o = (.ok told.isSome, b) := by
      simp only [Backend.report, hannounce, Attempt.map_ok]
    simp only [notify, hreport] at h
    split at h
    · exact absurd h nofun
    · split at h <;> exact absurd h nofun

/-- What a report that fails leaves behind is all that its call leaves behind. -/
theorem unmoved_of_error {d : Debuggee σ} {o : Occurrence} {e : CommandError}
    (h : (d.backend.announce o).1 = .error e) : d.Unmoved (d.notify o).2 := by
  have hannounces := d.backend.announces o
  rw [h] at hannounces
  rw [notify_of_error h]
  exact ⟨hannounces.unmoved, rfl⟩

/-- **A target that does not tell loses nothing**, whatever else it did when it was asked. -/
theorem unmoved_of_failed {d : Debuggee σ} {o : Occurrence} {e : CommandError}
    (h : (d.notify o).1 = .failed e) : d.Unmoved (d.notify o).2 :=
  unmoved_of_error (announce_of_failed h)

/-- A debugger asks to be told of one breakpoint. -/
def onBreakpoint : List (Happening InMemory) :=
  [.connected, .command Command.all 15 1 [2, 1, 0, 0, 0, 1, 1, 0, 0, 0, 1]]

/-- The first of `twoThreads` is at the start of its method. -/
def atBreakpoint : Occurrence := .code ⟨⟨5⟩, ⟨2⟩, 0, none⟩ .breakpoint

/-- The target fails once, and the only breakpoint that was asked for is reported the next time. -/
theorem unmoved_of_failed_once : ∃ b, Backend.new {} Backend.twoThreads = .ok b ∧
    let d := Debuggee.new (b.after (onBreakpoint ++
      [.elsewhere fun b => { b with target := b.target.breakNext "gone" }]))
    (d.notify atBreakpoint).1 = .failed (.internal "gone") ∧ d.Unmoved (d.notify atBreakpoint).2 ∧
      ((d.notify atBreakpoint).2.notify atBreakpoint).1 = .waits 2 := by
  refine ⟨_, rfl, ?_, unmoved_of_failed (e := .internal "gone") ?_, ?_⟩ <;> decide +kernel

/-! ## Reports that fail in a row -/

/-- The state after some reports. -/
def notifyAll (d : Debuggee σ) (os : List Occurrence) : Debuggee σ :=
  os.foldl (fun d o => (d.notify o).2) d

/-- Each of some reports fails, one after another. -/
def Failing (d : Debuggee σ) : List Occurrence → Prop
  | [] => True
  | o :: os => (∃ e, (d.notify o).1 = .failed e) ∧ Failing (d.notify o).2 os

/-- **However many reports fail in a row**, nothing is lost. -/
theorem unmoved_of_failing {d : Debuggee σ} {os : List Occurrence} (h : d.Failing os) :
    d.Unmoved (d.notifyAll os) := by
  induction os generalizing d with
  | nil => exact .refl d
  | cons o os ih =>
    obtain ⟨⟨e, hfailed⟩, hrest⟩ := h
    exact (unmoved_of_error (announce_of_failed hfailed)).trans (ih hrest)

end Debuggee
end DebugWire

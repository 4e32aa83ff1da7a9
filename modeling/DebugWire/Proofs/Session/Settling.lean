import DebugWire.Proofs.Session.FrameLife
import DebugWire.Proofs.Session.Keeping

/-!
# Proofs/Session/Settling — what a command does to the session

Most commands change the table and the target only.  The others read their payload, and then do one
thing to the session.  `Backend.Settles` lists what can become of a backend, and with which answer;
`Backend.settles_answer` says that nothing else can.
-/

namespace DebugWire

variable {α β σ : Type}

namespace Action

/-! ## Steps that only read -/

/-- A step that leaves the backend alone. -/
def Still (x : Action σ α) : Prop := ∀ c, (x.run c).2.backend = c.backend

/-- A step that keeps every backend as it is changes none. -/
theorem Still.of_keeps {x : Action σ α} (h : ∀ b, Keeps (· = b) (fun _ => True) x) : Still x :=
  fun c => (h c.backend c rfl).1

theorem still_read (x : Read α) : Still (read x : Action σ α) :=
  .of_keeps fun _ => keeps_read (fun _ _ => trivial) x

/-- Begun on a backend, the step answers and leaves the backend as `Q` says. -/
def Leads (b : Backend σ) (Q : Except CommandError α → Backend σ → Prop) (x : Action σ α) : Prop :=
  ∀ cursor, Q (x.run ⟨b, cursor⟩).1 (x.run ⟨b, cursor⟩).2.backend

variable {b : Backend σ} {Q : Except CommandError β → Backend σ → Prop}

/-- What is read first fails and leaves the backend alone, or the rest starts on the backend. -/
theorem Still.run_bind {x : Action σ α} {f : α → Action σ β} (hx : Still x)
    (herror : ∀ e, Q (.error e) b) (cursor : Cursor)
    (hf : ∀ a, (x.run ⟨b, cursor⟩).1 = .ok a → Leads b Q (f a)) :
    Q ((x >>= f).run ⟨b, cursor⟩).1 ((x >>= f).run ⟨b, cursor⟩).2.backend := by
  have hstill := hx ⟨b, cursor⟩
  rcases hrun : x.run ⟨b, cursor⟩ with ⟨e | a, c⟩
  · rw [hrun] at hstill
    rw [Attempt.run_bind_of_error hrun]
    obtain rfl : c.backend = b := hstill
    exact herror e
  · rw [hrun] at hstill hf
    rw [Attempt.run_bind_of_ok hrun]
    obtain rfl : c.backend = b := hstill
    exact hf a rfl c.cursor

/-- Where nothing has changed yet, the rest decides, or an error with the old backend. -/
theorem Still.leads {x : Action σ α} {f : α → Action σ β} (hx : Still x)
    (herror : ∀ e, Q (.error e) b) (hf : ∀ a, Leads b Q (f a)) : Leads b Q (x >>= f) :=
  fun cursor => hx.run_bind herror cursor fun a _ => hf a

/-- A change, after which nothing can fail. -/
theorem leads_edit {f : Backend σ → Backend σ} {a : β} (h : Q (.ok a) (f b)) :
    Leads b Q (edit f >>= fun _ => pure a) := fun _ => h

end Action

namespace Answer

open DebugWire.Action

theorem still_thread : Still (thread : Action σ Handle) :=
  .of_keeps fun _ => keeps_entity (fun _ _ => trivial) _

theorem still_eventKind : Still (eventKind : Action σ EventKind) :=
  .of_keeps fun _ => keeps_eventKind fun _ _ => trivial

theorem still_suspendPolicy : Still (suspendPolicy : Action σ SuspendPolicy) :=
  .of_keeps fun _ => keeps_suspendPolicy fun _ _ => trivial

/-- Modifiers are decoded by looking at the table alone. -/
theorem still_modifiers (n : Nat) :
    Still (times n (decode Modifier.read) : Action σ (List Modifier)) :=
  .of_keeps fun _ => keeps_times (keeps_decode (fun _ _ => trivial) Modifier.blames_read) n

end Answer

/-! ## What becomes of a backend -/

namespace Backend

/-- What a command makes of a backend: its answer, and the backend afterwards. -/
inductive Settles (b : Backend σ) (payload : Bytes) :
    Command → Except CommandError Body → Backend σ → Prop where
  /-- The session is left alone. -/
  | calm {c : Command} (hc : ¬ c.changesSession) (r : Except CommandError Body) (target : σ)
      (registry : Registry) :
      Settles b payload c r { b with target := target, registry := registry }
  /-- The payload is refused while it is read. -/
  | unread {c : Command} (e : CommandError) : Settles b payload c (.error e) b
  | dispose : Settles b payload .dispose (.ok (.plain [])) b.dispose
  | suspend : Settles b payload .suspend (.ok (.plain []))
      { b with suspension := b.suspension.suspendAll }
  | resume : Settles b payload .resume (.ok (.plain []))
      { b with registry := b.registry.invalidateFrames, suspension := b.suspension.resumeAll }
  | suspendThread {thread : Handle} (hthread : b.threadIn? payload = some thread) :
      Settles b payload .suspendThread (.ok (.plain []))
        { b with suspension := b.suspension.suspendThread thread }
  /-- The thread stays suspended. -/
  | resumeThread {thread : Handle} (hthread : b.threadIn? payload = some thread)
      (hheld : (b.suspension.resumeThread thread).isSuspended thread) :
      Settles b payload .resumeThread (.ok (.plain []))
        { b with suspension := b.suspension.resumeThread thread }
  /-- The thread runs. -/
  | letGo {thread : Handle} (hthread : b.threadIn? payload = some thread)
      (hfree : ¬ (b.suspension.resumeThread thread).isSuspended thread) :
      Settles b payload .resumeThread (.ok (.plain []))
        { b with
          registry := b.registry.invalidateFrames
          suspension := b.suspension.resumeThread thread }
  | setRequest (kind : EventKind) (policy : SuspendPolicy) (modifiers : List Modifier) :
      Settles b payload .setRequest (.ok (.plain (Bytes.ofInt32 b.requests.nextId)))
        { b with requests := (b.requests.set kind policy modifiers).2 }
  | clearRequest (kind : EventKind) (id : Int32) :
      Settles b payload .clearRequest (.ok (.plain []))
        { b with requests := (b.requests.clear kind id).2 }
  | clearBreakpoints : Settles b payload .clearBreakpoints (.ok (.plain []))
      { b with requests := b.requests.clearBreakpoints.2 }

/-- Nothing but the target and the table differs. -/
def SameSession (b b' : Backend σ) : Prop :=
  ∃ target registry, b' = { b with target := target, registry := registry }

/-- By the cases of `Settles`: all the others are of commands that change the session. -/
theorem Settles.sameSession {b b' : Backend σ} {payload : Bytes} {c : Command}
    {r : Except CommandError Body} (h : b.Settles payload c r b') (hc : ¬ c.changesSession) :
    b.SameSession b' := by
  cases h with
  | calm _ _ target registry => exact ⟨target, registry, rfl⟩
  | unread => exact ⟨b.target, b.registry, rfl⟩
  | _ => exact absurd rfl hc

/-- No command queues a packet. -/
theorem Settles.queue {b b' : Backend σ} {payload : Bytes} {c : Command}
    {r : Except CommandError Body} (h : b.Settles payload c r b') : b'.queue = b.queue := by
  cases h <;> rfl

/-- No command takes back that the session was disposed. -/
theorem Settles.disposed {b b' : Backend σ} {payload : Bytes} {c : Command}
    {r : Except CommandError Body} (h : b.Settles payload c r b') (hb : b.disposed) :
    b'.disposed := by
  cases h with
  | dispose => rfl
  | _ => exact hb

end Backend

namespace Answer

open DebugWire.Action

variable {payload : Bytes} {b : Backend σ} {c : Command}

/-- As `Backend.Settles`, where plain bytes are answered. -/
def Settles (payload : Bytes) (b : Backend σ) (c : Command) (r : Except CommandError Bytes) :
    Backend σ → Prop := b.Settles payload c (r.map .plain)

/-- The bytes of a reply without ids are its body. -/
theorem settles_plain {x : Action σ Bytes}
    (h : Settles payload b c (x.run ⟨b, .start payload⟩).1 (x.run ⟨b, .start payload⟩).2.backend) :
    b.Settles payload c ((Body.plain <$> x).perform payload b).1
      ((Body.plain <$> x).perform payload b).2 := by
  simp only [perform, Attempt.run_map]
  exact h

theorem settles_suspendThread : Settles payload b .suspendThread
    (suspendThread.run ⟨b, .start payload⟩).1
    (suspendThread.run ⟨b, .start payload⟩).2.backend := by
  refine still_thread.run_bind (fun e => .unread e) (.start payload) fun thread hthread => ?_
  refine leads_edit (.suspendThread ?_)
  rw [Backend.threadIn?, perform, hthread]
  rfl

/-- The frames go if the thread is let go, which the new counts tell. -/
theorem settles_resumeThread : Settles payload b .resumeThread
    (resumeThread.run ⟨b, .start payload⟩).1 (resumeThread.run ⟨b, .start payload⟩).2.backend := by
  refine still_thread.run_bind (fun e => .unread e) (.start payload) fun t hthread => ?_
  have hnamed : b.threadIn? payload = some t := by
    rw [Backend.threadIn?, perform, hthread]
    rfl
  intro cursor
  simp only [Attempt.run_bind, editSuspension, edit, Attempt.run_modify, isSuspended, backend,
    Attempt.run_map, Attempt.run_get, Attempt.map_ok, Attempt.run_pure]
  by_cases hheld : (b.suspension.resumeThread t).isSuspended t
  · simp only [hheld, Bool.not_true, Bool.false_eq_true, if_false, Attempt.run_pure]
    exact .resumeThread hnamed hheld
  · simp only [hheld, Bool.not_false, if_true, Attempt.run_bind, registry, Attempt.run_ofStep,
      Attempt.run_pure]
    exact .letGo hnamed hheld

/-- One request more, if the payload was decoded to its end. -/
theorem settles_setRequest : Settles payload b .setRequest
    (setRequest.run ⟨b, .start payload⟩).1 (setRequest.run ⟨b, .start payload⟩).2.backend := by
  refine still_eventKind.run_bind (fun e => .unread e) (.start payload) fun kind _ => ?_
  refine still_suspendPolicy.leads (fun e => .unread e) fun policy => ?_
  refine (still_read _).leads (fun e => .unread e) fun n => ?_
  refine (still_modifiers n).leads (fun e => .unread e) fun modifiers cursor => ?_
  exact .setRequest kind policy modifiers

/-- An id that names no request is cleared in vain, with an empty reply all the same. -/
theorem settles_clearRequest : Settles payload b .clearRequest
    (clearRequest.run ⟨b, .start payload⟩).1 (clearRequest.run ⟨b, .start payload⟩).2.backend := by
  refine still_eventKind.run_bind (fun e => .unread e) (.start payload) fun kind _ => ?_
  exact (still_read _).leads (fun e => .unread e) fun id cursor => .clearRequest kind id

end Answer

namespace Backend

variable [Target σ]

/-- Registering and asking the target leave the session alone. -/
theorem bears_sameSession (b : Backend σ) : Action.Bears b.SameSession fun _ => True where
  registry := by
    rintro _ r ⟨target, _, rfl⟩
    exact ⟨target, r, rfl⟩
  asked := by
    rintro _ x - _ ⟨target, registry, rfl⟩
    exact ⟨⟨_, registry, rfl⟩, fun _ _ => trivial⟩
  told _ _ := trivial

/-- A command that leaves the session alone changes the target and the table. -/
theorem settles_of_calm {c : Command} (hc : ¬ c.changesSession) (payload : Bytes)
    (b : Backend σ) :
    b.Settles payload c (c.answer.perform payload b).1 (c.answer.perform payload b).2 := by
  have hkeeps : Action.Keeps b.SameSession (fun _ => True) (c.answer : Action σ Body) :=
    c.keeps_answer (bears_sameSession b) (fun h => absurd h hc) fun _ _ => trivial
  obtain ⟨target, registry, hcalm⟩ := (hkeeps ⟨b, .start payload⟩ ⟨b.target, b.registry, rfl⟩).1
  change b.Settles payload c _ (Attempt.run c.answer ⟨b, .start payload⟩).2.backend
  rw [hcalm]
  exact .calm hc _ target registry

/-- **What a command makes of a backend.** -/
theorem settles_answer (c : Command) (payload : Bytes) (b : Backend σ) :
    b.Settles payload c (c.answer.perform payload b).1 (c.answer.perform payload b).2 := by
  by_cases hc : ¬ c.changesSession
  · exact settles_of_calm hc payload b
  cases c with
  | dispose => exact .dispose
  | suspend => exact .suspend
  | resume => exact .resume
  | suspendThread => exact Answer.settles_plain Answer.settles_suspendThread
  | resumeThread => exact Answer.settles_plain Answer.settles_resumeThread
  | setRequest => exact Answer.settles_plain Answer.settles_setRequest
  | clearRequest => exact Answer.settles_plain Answer.settles_clearRequest
  | clearBreakpoints => exact .clearBreakpoints
  | _ => exact absurd Bool.false_ne_true hc

theorem settles_run {b : Backend σ} {known : List Command} {commandSet command : UInt8}
    {c : Command} (h : b.carries? known commandSet command = some c) (payload : Bytes) :
    b.Settles payload c (b.run known commandSet command payload).1
      (b.run known commandSet command payload).2 := by
  rw [run_of_carries h]
  exact settles_answer c payload b

/-- What is not carried out leaves the backend alone. -/
theorem kept_or_settles (b : Backend σ) (known : List Command) (commandSet command : UInt8)
    (payload : Bytes) : (b.run known commandSet command payload).2 = b ∨
      ∃ c, b.carries? known commandSet command = some c ∧
        b.Settles payload c (b.run known commandSet command payload).1
          (b.run known commandSet command payload).2 := by
  cases hcarries : b.carries? known commandSet command with
  | none =>
    obtain hrun | hrun := run_of_carries_none hcarries payload <;> rw [hrun] <;> exact Or.inl rfl
  | some c => exact Or.inr ⟨c, rfl, settles_run hcarries payload⟩

end Backend
end DebugWire

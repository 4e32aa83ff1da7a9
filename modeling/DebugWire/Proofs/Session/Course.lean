import DebugWire.Proofs.Registry.Yield
import DebugWire.Proofs.Session.Answers
import DebugWire.Proofs.Session.Report
import DebugWire.Target.InMemory

/-!
# Proofs/Session/Course — whatever happens to a backend

A `Happening` is one thing that befalls a backend: a command, a report, an entity that is gone, a
debugger that comes or goes.  It makes some calls of the table, and what is written names what they
hand out (`hands_next`).  None of them breaks what an id is assigned to, so over any course of
happenings, across sessions, no id is handed out for a second entity (`ids_never_recycled`).
-/

namespace DebugWire

open Registry

variable {σ : Type}

/-! ## Happenings -/

/-- Something that befalls a backend. -/
inductive Happening (σ : Type) where
  /-- A command comes in, where some commands are known. -/
  | command (known : List Command) (commandSet command : UInt8) (payload : Bytes)
  | report (occurrence : Occurrence)
  /-- The target says that an entity is gone. -/
  | freed (handle : Handle)
  | swept
  /-- The session is ended otherwise than by a command. -/
  | disposed
  /-- A debugger connects.  Only one can at a time. -/
  | connected
  /-- The connection is over. -/
  | hungUp
  /-- Something changes that is not the table: the target runs on, or a packet is sent. -/
  | elsewhere (change : Backend σ → Backend σ)

/-- The change is one that the program allows: the target runs on, or packets that wait are sent,
the oldest first. -/
def Happening.Regular : Happening σ → Prop
  | .elsewhere change => ∀ b, ∃ target n,
      change b = { b with target := target, queue := b.queue.drop n }
  | _ => True

namespace Backend

theorem registry_of_new {settings : BackendSettings} {target : σ} {b : Backend σ}
    (hb : Backend.new settings target = .ok b) :
    b.registry = .new settings.firstId settings.sweepThreshold.toNat := by
  unfold Backend.new at hb
  cases hvalid : settings.validate with
  | error e =>
    rw [hvalid] at hb
    cases hb
  | ok _ =>
    rw [hvalid] at hb
    obtain rfl := Except.ok.inj hb
    rfl

variable [Target σ]

/-- What is written to the debugger, and the backend afterwards. -/
def next (b : Backend σ) : Happening σ → Body × Backend σ
  | .command known commandSet command payload =>
      match b.run known commandSet command payload with
      | (.ok body, b) => (body, b)
      | (.error _, b) => ([], b)
  | .report occurrence =>
      match b.announce occurrence with
      | (.ok (some body), b) => (body, b)
      | (_, b) => ([], b)
  | .freed handle => ([], { b with registry := b.registry.entityFreed handle })
  | .swept => ([], { b with registry := b.registry.sweep.2 })
  | .disposed => ([], b.dispose)
  | .connected => ([], (b.takeOutlet.map reset).getD b)
  | .hungUp => ([], b.releaseAll.restoreOutlet)
  | .elsewhere change => ([], { change b with registry := b.registry })

theorem next_command (b : Backend σ) (known : List Command) (commandSet command : UInt8)
    (payload : Bytes) : b.next (.command known commandSet command payload) =
      ((b.run known commandSet command payload).1.toOption.getD [],
        (b.run known commandSet command payload).2) := by
  rcases hrun : b.run known commandSet command payload with ⟨_ | _, _⟩
  · simp only [next, hrun]
    rfl
  · simp only [next, hrun]
    rfl

theorem next_report (b : Backend σ) (o : Occurrence) : b.next (.report o) =
    ((b.announce o).1.toOption.join.getD [], (b.announce o).2) := by
  rcases hannounce : b.announce o with ⟨_ | _ | _, _⟩ <;> simp only [next, hannounce] <;> rfl

/-- A debugger that connects takes the outlet, and a session begins. -/
theorem next_connected (b : Backend σ) : ∃ outlet disposed,
    (b.next .connected).2 = { b with outlet := outlet, disposed := disposed } := by
  unfold next takeOutlet
  cases b.outlet with
  | free => exact ⟨.taken, false, rfl⟩
  | taken | dropped => exact ⟨b.outlet, b.disposed, rfl⟩

/-- The body of a reply is what is written in the step. -/
theorem body_of_dispatch {known : List Command} {commandSet command : UInt8} {payload : Bytes}
    {b : Backend σ} {reply : Reply}
    (h : (b.dispatch known commandSet command payload).1 = .ok reply) :
    reply.body = (b.next (.command known commandSet command payload)).1.bytes := by
  rcases hrun : b.run known commandSet command payload with ⟨e | body, c⟩
  · simp only [dispatch, hrun] at h
    simp only [next, hrun]
    split at h
    · obtain rfl := Except.ok.inj h
      rfl
    · cases h
  · simp only [dispatch, hrun] at h
    simp only [next, hrun]
    obtain rfl := Except.ok.inj h
    rfl

/-- The backend after a course of happenings. -/
def after (b : Backend σ) (hs : List (Happening σ)) : Backend σ :=
  hs.foldl (fun b h => (b.next h).2) b

@[simp] theorem after_nil (b : Backend σ) : b.after [] = b := rfl

@[simp] theorem after_cons (b : Backend σ) (h : Happening σ) (hs : List (Happening σ)) :
    b.after (h :: hs) = (b.next h).2.after hs := rfl

theorem after_append (b : Backend σ) (hs hs' : List (Happening σ)) :
    b.after (hs ++ hs') = (b.after hs).after hs' := List.foldl_append

theorem after_snoc (b : Backend σ) (hs : List (Happening σ)) (h : Happening σ) :
    b.after (hs ++ [h]) = ((b.after hs).next h).2 := after_append b hs [h]

/-! ## One step -/

/-- The command that is carried out.  What is not known is not, and a dead target forbids most. -/
def carries? (b : Backend σ) (known : List Command) (commandSet command : UInt8) :
    Option Command :=
  (Command.find? known commandSet command).filter fun c =>
    Target.isAlive b.target || c.outlivesTarget

theorem run_of_carries {b : Backend σ} {known : List Command} {commandSet command : UInt8}
    {c : Command} (h : b.carries? known commandSet command = some c) (payload : Bytes) :
    b.run known commandSet command payload = c.answer.perform payload b := by
  obtain ⟨hfind, halive⟩ := Option.filter_eq_some_iff.mp h
  rw [run, hfind]
  refine if_neg ?_
  rintro ⟨hdead, hends⟩
  rw [Bool.or_eq_true] at halive
  grind

/-- What is not carried out is refused, and changes nothing. -/
theorem run_of_carries_none {b : Backend σ} {known : List Command} {commandSet command : UInt8}
    (h : b.carries? known commandSet command = none) (payload : Bytes) :
    b.run known commandSet command payload = (.error (.notImplemented commandSet command), b) ∨
      b.run known commandSet command payload = (.error (.refused .vmDead), b) := by
  unfold run
  rw [carries?, Option.filter_eq_none_iff] at h
  cases hfind : Command.find? known commandSet command with
  | none => exact Or.inl rfl
  | some c => exact Or.inr (if_pos (by simpa using h c hfind))

/-- A command that is carried out hands out what its reply names. -/
theorem handing_run {b : Backend σ} {known : List Command} {commandSet command : UInt8}
    {c : Command} (h : b.carries? known commandSet command = some c) (payload : Bytes) :
    ∃ named, b.registry.Handing c.mayCall [] (b.run known commandSet command payload).2.registry
        named ∧
      ∀ body, (b.run known commandSet command payload).1 = .ok body → body.names = named := by
  have hcalls : Action.Calls c.mayCall [] (c.answer : Action σ Body) Body.names := c.calls_answer
  rw [run_of_carries h]
  exact hcalls ⟨b, .start payload⟩

/-- The calls of the table that a happening can make. -/
def mayCall (b : Backend σ) : Happening σ → Operation → Bool
  | .command known commandSet command _, op =>
      (b.carries? known commandSet command).any (·.mayCall op)
  | .report _, op => op.registers
  | .freed handle, .entityFreed h => h = handle
  | .swept, .sweep => true
  | .disposed, .disposeAll => true
  | _, _ => false

/-- The command is answered with an error. -/
def Refuses (b : Backend σ) : Happening σ → Prop
  | .command known commandSet command payload =>
      ∃ e, (b.run known commandSet command payload).1 = .error e
  | _ => False

/-- What is handed out in a step, where `named` is handed out. -/
structure Hands (b : Backend σ) (h : Happening σ) (named : List Naming) : Prop where
  handing : b.registry.Handing (b.mayCall h) [] (b.next h).2.registry named
  names : ¬ b.Refuses h → (b.next h).1.names = named
  nothing : b.Refuses h → (b.next h).1 = []

/-- A step that registers nothing. -/
theorem hands_of_perform {b : Backend σ} {h : Happening σ} (op : Operation)
    (hop : b.mayCall h op) (hsubject : op.subject? = none)
    (hregistry : (b.next h).2.registry = (op.perform b.registry).2) (hbody : (b.next h).1 = []) :
    b.Hands h [] where
  handing := hregistry ▸ Action.handing_of_no_subject op hop hsubject b.registry
  names _ := by rw [hbody]; rfl
  nothing _ := hbody

/-- A step that leaves the table alone. -/
theorem hands_of_kept {b : Backend σ} {h : Happening σ}
    (hregistry : (b.next h).2.registry = b.registry) (hbody : (b.next h).1 = []) :
    b.Hands h [] where
  handing := hregistry ▸ .refl _ _ _
  names _ := by rw [hbody]; rfl
  nothing _ := hbody

theorem hands_command (b : Backend σ) (known : List Command) (commandSet command : UInt8)
    (payload : Bytes) : ∃ named, b.Hands (.command known commandSet command payload) named := by
  cases hcarries : b.carries? known commandSet command with
  | none =>
    refine ⟨[], hands_of_kept ?_ ?_⟩ <;> rw [next_command]
    · obtain hrun | hrun := run_of_carries_none hcarries payload <;> rw [hrun]
    · obtain hrun | hrun := run_of_carries_none hcarries payload <;> rw [hrun] <;> rfl
  | some c =>
    obtain ⟨named, hhanding, hnames⟩ := handing_run hcarries payload
    refine ⟨named, ?_, fun hanswered => ?_, ?_⟩
    · rw [next_command]
      refine hhanding.mono fun op hop => ?_
      rw [mayCall, hcarries]
      exact hop
    · rw [next_command]
      cases hanswer : (b.run known commandSet command payload).1 with
      | ok body => exact hnames body hanswer
      | error e => exact absurd ⟨e, hanswer⟩ hanswered
    · rintro ⟨e, herror⟩
      rw [next_command, herror]
      rfl

theorem hands_report (b : Backend σ) (o : Occurrence) :
    b.Hands (.report o) (b.next (.report o)).1.names where
  handing := by
    rw [next_report]
    exact handing_announce o b
  names _ := rfl
  nothing := nofun

/-- **One step.**  It makes some calls, and what is written names what they hand out. -/
theorem hands_next (b : Backend σ) (h : Happening σ) : ∃ named, b.Hands h named := by
  cases h with
  | command known commandSet command payload =>
    exact hands_command b known commandSet command payload
  | report o => exact ⟨_, hands_report b o⟩
  | freed handle =>
    exact ⟨[], hands_of_perform (.entityFreed handle) (by simp [mayCall]) rfl rfl rfl⟩
  | swept => exact ⟨[], hands_of_perform .sweep rfl rfl rfl rfl⟩
  | disposed => exact ⟨[], hands_of_perform .disposeAll rfl rfl rfl rfl⟩
  | connected =>
    obtain ⟨outlet, disposed, hnext⟩ := b.next_connected
    exact ⟨[], hands_of_kept (by rw [hnext]) rfl⟩
  | hungUp => exact ⟨[], hands_of_kept rfl rfl⟩
  | elsewhere change => exact ⟨[], hands_of_kept rfl rfl⟩

theorem follows_next (b : Backend σ) (h : Happening σ) :
    Follows b.registry (b.next h).2.registry := by
  obtain ⟨named, hhands⟩ := hands_next b h
  exact hhands.handing.follows

/-- What is written names entities as they are assigned. -/
theorem names_next {b : Backend σ} {h : Happening σ} (hb : b.registry.WellFormed)
    (hroom : (b.next h).2.registry.HasRoom) :
    (b.next h).2.registry.Names (b.next h).1.names := by
  obtain ⟨named, hhands⟩ := hands_next b h
  by_cases hrefuses : b.Refuses h
  · rw [hhands.nothing hrefuses]
    exact nofun
  · rw [hhands.names hrefuses]
    exact hhands.handing.names hb hroom

/-! ## Any course of steps -/

/-- Every step of a course passes a test, taken by the backend as it is by then. -/
def always (test : Backend σ → Happening σ → Bool) (b : Backend σ) : List (Happening σ) → Bool
  | [] => true
  | h :: hs => test b h && always test (b.next h).2 hs

/-- What the steps of a course yield, one after another, each told by the backend as it is by
then. -/
def gather {α : Type} (yield : Backend σ → Happening σ → List α) (b : Backend σ) :
    List (Happening σ) → List α
  | [] => []
  | h :: hs => yield b h ++ gather yield (b.next h).2 hs

theorem gather_append {α : Type} (yield : Backend σ → Happening σ → List α) (b : Backend σ)
    (hs hs' : List (Happening σ)) :
    b.gather yield (hs ++ hs') = b.gather yield hs ++ (b.after hs).gather yield hs' := by
  induction hs generalizing b with
  | nil => rfl
  | cons h hs ih => rw [List.cons_append, gather, gather, ih, after_cons, List.append_assoc]

theorem follows_after (hs : List (Happening σ)) (b : Backend σ) :
    Follows b.registry (b.after hs).registry := by
  induction hs generalizing b with
  | nil =>
    rw [after_nil]
  | cons h hs ih =>
    rw [after_cons]
    exact (follows_next b h).trans (ih _)

/-- What leaves room in the end has left room until then. -/
theorem room_after {b : Backend σ} {before later : List (Happening σ)}
    (hroom : (b.after (before ++ later)).registry.HasRoom) :
    (b.after before).registry.HasRoom := by
  rw [after_append] at hroom
  exact hroom.of_later (follows_after later _).later

/-- What is written is assigned at once. -/
theorem assigned_of_written {b : Backend σ} {hs : List (Happening σ)} {h : Happening σ}
    (hb : b.registry.WellFormed) (hroom : (b.after (hs ++ [h])).registry.HasRoom) {n : Naming}
    (hn : n ∈ ((b.after hs).next h).1.names) : (b.after (hs ++ [h])).registry.Assigned n := by
  have hwf := (follows_after hs b).wellFormed hb (room_after hroom)
  rw [after_snoc] at hroom ⊢
  exact names_next hwf hroom n hn

/-- What comes to life in a step is greater than all that was issued until then. -/
theorem lt_of_born {b : Backend σ} {hs : List (Happening σ)} {h : Happening σ}
    (hb : b.registry.WellFormed) (hroom : (b.after (hs ++ [h])).registry.HasRoom) {id : WireId}
    {e : Entry} (hnone : (b.after hs).registry.live? id = none)
    (he : (b.after (hs ++ [h])).registry.live? id = some e) :
    id ∈ (b.after (hs ++ [h])).registry.issuedIds ∧
      ∀ id' ∈ (b.after hs).registry.issuedIds, id'.raw < id.raw := by
  have hstep := follows_next (b.after hs) h
  have hwf := (follows_after hs b).wellFormed hb (room_after hroom)
  rw [after_snoc] at he hroom ⊢
  have hissued := ((hstep.wellFormed hwf hroom).assigned_of_live? he).issued
  exact ⟨(mem_issuedIds hroom).mpr hissued,
    fun id' hid' => hstep.lt_of_live? hwf hroom hnone he hid'⟩

/-- What is written in a step yields its entity or is refused, in whatever comes of the table. -/
theorem yields_of_written {b : Backend σ} {hs : List (Happening σ)} {h : Happening σ} {n : Naming}
    {r : Registry} (hb : b.registry.WellFormed) (hn : n ∈ ((b.after hs).next h).1.names)
    (hr : Follows (b.after (hs ++ [h])).registry r) (hroom : r.HasRoom) :
    n.2 ∈ (b.after (hs ++ [h])).registry.issuedIds ∧ r.Yields n.2 n.1 := by
  have hroom' := hroom.of_later hr.later
  have hassigned := assigned_of_written hb hroom' hn
  have hwf := (follows_after (hs ++ [h]) b).wellFormed hb hroom'
  exact ⟨(mem_issuedIds hroom').mpr hassigned.issued, (hassigned.of_follows hr hwf hroom).yields⟩

/-- That no id is handed out twice, of a backend that some things befell. -/
structure Unrecycled (b : Backend σ) (hs : List (Happening σ)) : Prop where
  /-- Every id is greater than those issued before it. -/
  ascend : (b.after hs).registry.issuedIds.Pairwise fun id id' => id.raw < id'.raw
  null_not_issued : .null ∉ (b.after hs).registry.issuedIds
  /-- No step takes an id back. -/
  kept : ∀ before later, hs = before ++ later →
    (b.after before).registry.issuedIds <+: (b.after hs).registry.issuedIds
  /-- An id that comes to life in a step is greater than all ids issued until then. -/
  born : ∀ before h later, hs = before ++ h :: later → ∀ id e,
    (b.after before).registry.live? id = none →
      (b.after (before ++ [h])).registry.live? id = some e →
        id ∈ (b.after (before ++ [h])).registry.issuedIds ∧
          ∀ id' ∈ (b.after before).registry.issuedIds, id'.raw < id.raw
  /-- An id that was written for an entity yields it or is refused, whatever calls `ops` a command
  makes before it asks. -/
  written : ∀ before h later, hs = before ++ h :: later →
    ∀ n ∈ ((b.after before).next h).1.names, ∀ ops, ((b.after hs).registry.run ops).HasRoom →
      n.2 ∈ (b.after (before ++ [h])).registry.issuedIds ∧
        ((b.after hs).registry.run ops).Yields n.2 n.1

/-- **No id is handed out for a second entity**, however many sessions come and go. -/
theorem ids_never_recycled {settings : BackendSettings} {target : σ} {b : Backend σ}
    (hnew : Backend.new settings target = .ok b) (hs : List (Happening σ))
    (hroom : (b.after hs).registry.HasRoom) : b.Unrecycled hs := by
  have hb : b.registry.WellFormed := registry_of_new hnew ▸ WellFormed.new _ _
  have hwf := (follows_after hs b).wellFormed hb hroom
  refine ⟨issuedIds_ascend hroom, hwf.null_not_mem_issuedIds hroom, ?_, ?_, ?_⟩
  · rintro before later rfl
    rw [after_append]
    exact (follows_after later _).later.issuedIds_prefix
  · rintro before h later rfl id e hnone he
    rw [List.append_cons] at hroom
    exact lt_of_born hb (room_after hroom) hnone he
  · rintro before h later rfl n hn ops hops
    have hlater := follows_after later (b.after (before ++ [h]))
    rw [← after_append, ← List.append_cons] at hlater
    exact yields_of_written hb hn (hlater.trans (follows_run ops _)) hops

/-- A thread that is reported in two sessions: the second time it gets another id. -/
theorem ids_never_recycled_on_reconnect : ∃ b : Backend InMemory,
    Backend.new {} InMemory.new = .ok b ∧
      ((b.after [.connected]).next (.report (.vmStart ⟨7⟩))).1.names = [(⟨7⟩, ⟨1⟩)] ∧
      ((b.after [.connected, .report (.vmStart ⟨7⟩), .command Command.all 1 6 [], .hungUp,
        .connected]).next (.report (.vmStart ⟨7⟩))).1.names = [(⟨7⟩, ⟨2⟩)] ∧
      b.Unrecycled [.connected, .report (.vmStart ⟨7⟩), .command Command.all 1 6 [], .hungUp,
        .connected, .report (.vmStart ⟨7⟩)] := by
  have hnew : Backend.new {} InMemory.new = .ok _ := rfl
  exact ⟨_, hnew, by decide, by decide, ids_never_recycled hnew _ (by decide)⟩

end Backend
end DebugWire

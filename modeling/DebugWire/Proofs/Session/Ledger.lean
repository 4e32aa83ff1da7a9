import DebugWire.Proofs.Session.Malformed
import Mathlib.Data.List.Infix

/-!
# Proofs/Session/Ledger — references as the debugger counts them

The debugger owes a reference for each time that an id was written to it, less what it gave back
(`Backend.owed`).  A living object has at least the references that are owed, and exactly these as
long as whatever is handed out is written (`references_owed`).  A command that fails between two ids
hands out what is not written, and so does a report that nobody can read (`Backend.keeps`): such an
object outlives the last reference that is owed (`references_not_owed`).
-/

namespace DebugWire

/-! ## The calls of a command -/

namespace Command

variable {c : Command} {op : Operation}

theorem gives_of_mayCall (h : c.mayCall op) (hc : c ≠ .disposeObjects) : op.gives := by
  cases op with
  | disposeObjects => cases c <;> simp_all [mayCall, Operation.registersOther, Operation.registers]
  | _ => rfl

/-- A command that the target can stop halfway, and that names no objects. -/
theorem registersOther_of_mayCall (h : c.mayCall op) (hasks : c.asksBetween)
    (hnames : ¬ c.namesObjects) : op.registersOther := by
  cases c <;> simp_all [mayCall, asksBetween, namesObjects]

end Command

/-- Plain bytes name nothing. -/
theorem Action.names_plain {σ : Type} (x : Action σ Bytes) (payload : Bytes) (b : Backend σ) :
    Body.names (((Body.plain <$> x).perform payload b).1.toOption.getD []) = [] := by
  change Body.names ((Attempt.run (Body.plain <$> x) ⟨b, .start payload⟩).1.toOption.getD []) = []
  rw [Attempt.run_map]
  cases (Attempt.run x ⟨b, .start payload⟩).1 <;> rfl

namespace Backend

open Registry

variable {σ : Type} [Target σ]

/-! ## What the debugger counts -/

/-- What a happening writes, in bytes that reach the debugger (`conveys_of_written`). -/
def written (b : Backend σ) : Happening σ → List Naming
  | .report o => if b.outlet = .dropped then [] else (b.next (.report o)).1.names
  | h => (b.next h).1.names

/-- The bytes of a body reach the debugger: in a reply, or in a packet that is queued. -/
inductive Conveys (b : Backend σ) : Happening σ → Body → Prop where
  | reply {known : List Command} {commandSet command : UInt8} {payload : Bytes} {body : Body}
      (reply : Reply) (hreply : (b.dispatch known commandSet command payload).1 = .ok reply)
      (hbody : reply.body = body.bytes) : Conveys b (.command known commandSet command payload) body
  | packet {o : Occurrence} {body : Body} (id : UInt32)
      (hqueue : (b.next (.report o)).2.queue =
        b.queue ++ [CommandPacket.encode ⟨id, 64, 100, body.bytes⟩]) : Conveys b (.report o) body

/-- How many references to an id are given back. -/
def givenBack (id : WireId) (b : Backend σ) : Happening σ → Nat
  | .command known commandSet command payload =>
      id.total (b.takenBack known commandSet command payload)
  | _ => 0

/-- How many references to an id the debugger owes, where it owed `n` before. -/
def owed (id : WireId) (b : Backend σ) (n : Nat) : List (Happening σ) → Nat
  | [] => n
  | h :: hs => owed id (b.next h).2 (n - b.givenBack id h + id.timesIn (b.written h)) hs

/-- Whatever objects a happening names are written. -/
def keeps (b : Backend σ) : Happening σ → Bool
  | .command known commandSet command payload =>
      !(b.carries? known commandSet command).any (fun c => c.namesObjects && c.asksBetween) ||
        (b.run known commandSet command payload).1.isOk
  | .report _ => b.outlet ≠ .dropped
  | _ => true

/-! ## One step -/

variable {b : Backend σ} {h : Happening σ} {id : WireId} {x : Entry}

/-- A step takes some references to an id back, hands out others, and writes some of these; all of
them, if it `keeps` to that. -/
def Tallies (b : Backend σ) (h : Happening σ) (id : WireId) (references : Nat) : Prop :=
  ∃ k, references = countUp^[k] (b.registry.referencesTo id - b.givenBack id h) ∧
    id.timesIn (b.written h) ≤ k ∧ (b.keeps h → id.timesIn (b.written h) = k)

theorem timesIn_written_le (b : Backend σ) (h : Happening σ) (id : WireId) :
    id.timesIn (b.written h) ≤ id.timesIn (b.next h).1.names := by
  cases h with
  | report o =>
    rw [written]
    split
    · exact Nat.zero_le _
    · exact Nat.le_refl _
  | _ => exact Nat.le_refl _

theorem written_of_keeps (hkeeps : b.keeps h) : b.written h = (b.next h).1.names := by
  cases h with
  | report o => exact if_neg (of_decide_eq_true hkeeps)
  | _ => rfl

/-- **Whatever is written is in bytes that reach the debugger.** -/
theorem conveys_of_written (hwritten : b.written h ≠ []) :
    b.written h = (b.next h).1.names ∧ b.Conveys h (b.next h).1 := by
  cases h with
  | command known commandSet command payload =>
    refine ⟨rfl, ?_⟩
    rcases hrun : b.run known commandSet command payload with ⟨e | body, c⟩
    · have hnothing : (b.next (.command known commandSet command payload)).1 = [] := by
        rw [next_command, hrun]
        rfl
      exact absurd (congrArg Body.names hnothing) hwritten
    · have hdispatch : (b.dispatch known commandSet command payload).1 = .ok (.ok body.bytes) := by
        rw [dispatch, hrun]
      exact .reply _ hdispatch (body_of_dispatch hdispatch)
  | report o =>
    by_cases houtlet : b.outlet = .dropped
    · rw [written, if_pos houtlet] at hwritten
      exact absurd rfl hwritten
    refine ⟨if_neg houtlet, ?_⟩
    rw [written, if_neg houtlet, next_report] at hwritten
    rcases hannounce : (b.announce o).1 with e | _ | body
    · rw [hannounce] at hwritten
      exact absurd rfl hwritten
    · rw [hannounce] at hwritten
      exact absurd rfl hwritten
    · obtain ⟨id, hqueue⟩ := queue_announce hannounce houtlet
      refine .packet id ?_
      rw [next_report, hannounce]
      exact hqueue
  | freed | swept | disposed | connected | hungUp | elsewhere => exact absurd rfl hwritten

/-- A step that hands out what it names. -/
theorem tallies_of_names {references : Nat} (hback : b.givenBack id h = 0)
    (hreferences : references =
      countUp^[id.timesIn (b.next h).1.names] (b.registry.referencesTo id)) :
    b.Tallies h id references :=
  ⟨_, by rw [hback, Nat.sub_zero, hreferences], timesIn_written_le b h id,
    fun hkeeps => by rw [written_of_keeps hkeeps]⟩

section Command

variable {known : List Command} {commandSet command : UInt8} {payload : Bytes} {c : Command}

/-- A command that takes references back names nothing. -/
theorem tallies_disposeObjects
    (hcarries : b.carries? known commandSet command = some .disposeObjects)
    (hb : b.registry.WellFormed)
    (hroom : (b.next (.command known commandSet command payload)).2.registry.HasRoom)
    (hx : (b.next (.command known commandSet command payload)).2.registry.live? id = some x)
    (hobject : x.kind.isObject) :
    b.Tallies (.command known commandSet command payload) id x.references := by
  have hback : b.takenBack known commandSet command payload = Read.references payload :=
    if_pos hcarries
  have hnames : (b.next (.command known commandSet command payload)).1.names = [] := by
    rw [next_command, run_of_carries hcarries]
    exact Action.names_plain Answer.disposeObjects payload b
  have hwritten := timesIn_written_le b (.command known commandSet command payload) id
  rw [hnames] at hwritten
  rw [next_command, run_disposeObjects hcarries] at hroom hx
  refine ⟨0, ?_, hwritten, fun _ => Nat.le_zero.mp hwritten⟩
  rw [givenBack, hback]
  exact hb.references_takeBack hroom hx hobject

theorem givenBack_of_other (hcarries : b.carries? known commandSet command ≠ some .disposeObjects) :
    b.givenBack id (.command known commandSet command payload) = 0 := by
  rw [givenBack, takenBack, if_neg hcarries]
  rfl

/-- What is not carried out changes nothing. -/
theorem tallies_of_carries_none (hcarries : b.carries? known commandSet command = none)
    (hx : (b.next (.command known commandSet command payload)).2.registry.live? id = some x) :
    b.Tallies (.command known commandSet command payload) id x.references := by
  have hkept : (b.next (.command known commandSet command payload)).2.registry = b.registry ∧
      (b.next (.command known commandSet command payload)).1.names = [] := by
    rw [next_command]
    obtain hrun | hrun := run_of_carries_none hcarries payload <;> rw [hrun] <;> exact ⟨rfl, rfl⟩
  rw [hkept.1] at hx
  refine tallies_of_names (givenBack_of_other (by simp [hcarries])) ?_
  rw [hkept.2, referencesTo_of_live? hx]
  rfl

/-- A command that is refused has handed out nothing of an object, unless it stops between two. -/
theorem references_of_failed {e : CommandError}
    (hcarries : b.carries? known commandSet command = some c) (hc : c ≠ .disposeObjects)
    (hstops : ¬ (c.namesObjects ∧ c.asksBetween))
    (herror : (b.run known commandSet command payload).1 = .error e) (hb : b.registry.WellFormed)
    (hroom : (b.run known commandSet command payload).2.registry.HasRoom)
    (hx : (b.run known commandSet command payload).2.registry.live? id = some x)
    (hobject : x.kind.isObject) : x.references = b.registry.referencesTo id := by
  by_cases hasks : c.asksBetween
  · obtain ⟨named, hhanding, -⟩ := handing_run hcarries payload
    have hnames : ¬ c.namesObjects := fun hnames => hstops ⟨hnames, hasks⟩
    have hother := hhanding.mono fun op hop => c.registersOther_of_mayCall hop hasks hnames
    rw [hhanding.references (fun op hop => c.gives_of_mayCall hop hc) hb hroom hx hobject,
      hother.timesIn_eq_zero hb hroom hx hobject]
    rfl
  · have hundone : Action.Undone (fun _ => True) (c.answer : Action σ Body) :=
      c.undone_answer hc fun hasks' => absurd hasks' hasks
    rw [run_of_carries hcarries] at hx herror
    have hregistry := congrArg Backend.registry (hundone ⟨b, .start payload⟩ e herror trivial)
    change (c.answer.perform payload b).2.registry = b.registry at hregistry
    rw [hregistry] at hx
    exact (referencesTo_of_live? hx).symm

/-- A command that takes nothing back writes what it hands out, or stops between two ids. -/
theorem tallies_of_carries (hcarries : b.carries? known commandSet command = some c)
    (hc : c ≠ .disposeObjects) (hb : b.registry.WellFormed)
    (hroom : (b.next (.command known commandSet command payload)).2.registry.HasRoom)
    (hx : (b.next (.command known commandSet command payload)).2.registry.live? id = some x)
    (hobject : x.kind.isObject) :
    b.Tallies (.command known commandSet command payload) id x.references := by
  have hback : b.givenBack id (.command known commandSet command payload) = 0 :=
    givenBack_of_other (by simpa [hcarries] using hc)
  rw [next_command] at hroom hx
  obtain ⟨named, hhanding, hnames⟩ := handing_run hcarries payload
  have hcounted : x.references = countUp^[id.timesIn named] (b.registry.referencesTo id) :=
    hhanding.references (fun op hop => c.gives_of_mayCall hop hc) hb hroom hx hobject
  cases hrun : (b.run known commandSet command payload).1 with
  | ok body =>
    refine tallies_of_names hback ?_
    rw [next_command, hrun, hcounted, ← hnames body hrun]
    rfl
  | error e =>
    have hnothing : (b.next (.command known commandSet command payload)).1.names = [] := by
      rw [next_command, hrun]
      rfl
    by_cases hstops : c.namesObjects ∧ c.asksBetween
    · -- What was handed out in front of the failure is not written.
      have hwritten := timesIn_written_le b (.command known commandSet command payload) id
      rw [hnothing] at hwritten
      refine ⟨id.timesIn named, by rw [hback, Nat.sub_zero, hcounted],
        Nat.le_trans hwritten (Nat.zero_le _), fun hkeeps => ?_⟩
      rw [keeps, hcarries, hrun] at hkeeps
      simp [hstops, Except.isOk, Except.toBool] at hkeeps
    · refine tallies_of_names hback ?_
      rw [hnothing, references_of_failed hcarries hc hstops hrun hb hroom hx hobject]
      rfl

end Command

/-- **One step.** -/
theorem tallies_next (hb : b.registry.WellFormed) (hroom : (b.next h).2.registry.HasRoom)
    (hx : (b.next h).2.registry.live? id = some x) (hobject : x.kind.isObject) :
    b.Tallies h id x.references := by
  obtain ⟨named, hhands⟩ := hands_next b h
  cases h with
  | command known commandSet command payload =>
    cases hcarries : b.carries? known commandSet command with
    | none => exact tallies_of_carries_none hcarries hx
    | some c =>
      by_cases hc : c = .disposeObjects
      · exact tallies_disposeObjects (hc ▸ hcarries) hb hroom hx hobject
      · exact tallies_of_carries hcarries hc hb hroom hx hobject
  | _ =>
    refine tallies_of_names rfl ?_
    rw [hhands.names nofun]
    refine hhands.handing.references (fun op hop => ?_) hb hroom hx hobject
    cases op <;> first | rfl | exact absurd hop Bool.false_ne_true

/-! ## Along a course -/

/-- The references of an object that lives are at least `n`, and no more if the account is `sharp`.
An id that was not issued has none. -/
structure Counts (sharp : Prop) (r : Registry) (id : WireId) (n : Nat) : Prop where
  not_issued : ¬ r.Issued id → n = 0
  le : ∀ e, r.live? id = some e → e.kind.isObject → n ≤ e.references
  eq : sharp → ∀ e, r.live? id = some e → e.kind.isObject → e.references = n

variable {sharp : Prop} {n : Nat}

/-- The account is right before a step, if there is an object after it. -/
theorem Counts.referencesTo {r s : Registry} (hcounts : Counts sharp r id n) (hr : r.WellFormed)
    (hs : Follows r s) (hroom : s.HasRoom) (hx : s.live? id = some x) (hobject : x.kind.isObject) :
    n ≤ r.referencesTo id ∧ (sharp → r.referencesTo id = n) := by
  obtain ⟨e, he, hsame⟩ | ⟨hissued, hdead⟩ := hs.cases_live? hr hroom hx
  · rw [referencesTo_of_live? he]
    have hobject' : e.kind.isObject := hsame ▸ hobject
    exact ⟨hcounts.le e he hobject', fun hsharp => hcounts.eq hsharp e he hobject'⟩
  · rw [referencesTo_of_dead hdead, hcounts.not_issued hissued]
    exact ⟨Nat.le_refl 0, fun _ => rfl⟩

/-- **A step keeps the account right.** -/
theorem Counts.next (hcounts : Counts sharp b.registry id n) (hb : b.registry.WellFormed)
    (hroom : (b.next h).2.registry.HasRoom) (hkeeps : sharp → b.keeps h)
    (hmax : n - b.givenBack id h + id.timesIn (b.written h) ≤ counterMax) :
    Counts sharp (b.next h).2.registry id
      (n - b.givenBack id h + id.timesIn (b.written h)) where
  not_issued hissued := by
    have hbefore := hcounts.not_issued fun hid => hissued (hid.of_later (follows_next b h).later)
    have hnames : id.timesIn (b.next h).1.names = 0 :=
      WireId.timesIn_eq_zero fun m hm hname => hissued (hname ▸ (names_next hb hroom m hm).issued)
    have hwritten := timesIn_written_le b h id
    omega
  le x hx hobject := by
    obtain ⟨k, hreferences, hwritten, -⟩ := tallies_next hb hroom hx hobject
    have hle := (hcounts.referencesTo hb (follows_next b h) hroom hx hobject).1
    rw [hreferences]
    exact add_le_iterate_countUp (Nat.sub_le_sub_right hle _) hwritten hmax
  eq hsharp x hx hobject := by
    obtain ⟨k, hreferences, -, hwritten⟩ := tallies_next hb hroom hx hobject
    have heq := (hcounts.referencesTo hb (follows_next b h) hroom hx hobject).2 hsharp
    rw [hreferences, heq, ← hwritten (hkeeps hsharp)]
    exact iterate_countUp hmax

theorem Counts.after {hs : List (Happening σ)} (hcounts : Counts sharp b.registry id n)
    (hb : b.registry.WellFormed) (hroom : (b.after hs).registry.HasRoom)
    (hkeeps : sharp → b.always keeps hs)
    (hmax : ∀ before ∈ hs.inits, b.owed id n before ≤ counterMax) :
    Counts sharp (b.after hs).registry id (b.owed id n hs) := by
  induction hs generalizing b n with
  | nil => exact hcounts
  | cons h hs ih =>
    rw [after_cons] at hroom ⊢
    have hroom' := hroom.of_later (follows_after hs (b.next h).2).later
    have hfirst : b.owed id n [h] ≤ counterMax := hmax [h] (by simp)
    have hstep := hcounts.next hb hroom' (fun hsharp => (Bool.and_eq_true_iff.mp (hkeeps hsharp)).1)
      hfirst
    refine ih hstep ((follows_next b h).wellFormed hb hroom') hroom
      (fun hsharp => (Bool.and_eq_true_iff.mp (hkeeps hsharp)).2) fun before hbefore => ?_
    exact hmax (h :: before) (by simpa using hbefore)

/-- **References match what was written.**  Along any course, a living object has at least the
references that the debugger owes for it, and exactly these if all that was handed out was written;
and without pins it is released with the last one it has.  What was written is in the bytes of a
reply, or of a packet that was queued. -/
theorem references_owed {settings : BackendSettings} {target : σ}
    (hnew : Backend.new settings target = .ok b) {hs : List (Happening σ)}
    (hroom : (b.after hs).registry.HasRoom)
    (hmax : ∀ before ∈ hs.inits, b.owed id 0 before ≤ counterMax)
    (hx : (b.after hs).registry.live? id = some x) (hobject : x.kind.isObject) :
    b.owed id 0 hs ≤ x.references ∧ (b.always keeps hs → x.references = b.owed id 0 hs) ∧
      (x.pins = 0 → ∀ n,
        ((b.after hs).registry.disposeObjects id n).live? id = none ↔ x.references ≤ n) ∧
      ∀ before h later, hs = before ++ h :: later → (b.after before).written h ≠ [] →
        (b.after before).written h = ((b.after before).next h).1.names ∧
          (b.after before).Conveys h ((b.after before).next h).1 := by
  have hb : b.registry.WellFormed := registry_of_new hnew ▸ WellFormed.new _ _
  have hnone : ∀ e, b.registry.live? id ≠ some e := by
    rw [registry_of_new hnew]
    intro e he
    exact absurd he (by simp [live?, tracked?, Registry.new])
  have hempty : Counts (b.always keeps hs) b.registry id 0 :=
    ⟨fun _ => rfl, fun e he => absurd he (hnone e), fun _ e he => absurd he (hnone e)⟩
  have hcounts := hempty.after hb hroom (fun hkeeps => hkeeps) hmax
  have hwf := (follows_after hs b).wellFormed hb hroom
  exact ⟨hcounts.le x hx hobject, fun hkeeps => hcounts.eq hkeeps x hx hobject,
    hwf.live?_disposeObjects_eq_none_iff hx hobject, fun _ _ _ _ => conveys_of_written⟩

open InMemory in
/-- A thread with a frame that has an object in its first slot, and nothing in the second. -/
def oneLocal : InMemory :=
  let build : StateM InMemory Unit := do
    let type ← addClass "LMain;"
    let method ← addMethod type "main" "()V"
    let object ← addObject type
    let thread ← addThread "main" (← addThreadGroup "main" none)
    let frame ← pushFrame thread method 0
    modify (setLocal frame 0 (.reference (.object .plain) (some object)))
  (build.run InMemory.new).2

/-- A debugger learns the id 1 of the thread, suspends it, and learns the id 2 of the frame. -/
def enterFrame : List (Happening InMemory) :=
  [.connected, .command Command.all 1 4 [], .command Command.all 11 2 (Bytes.ofWireId ⟨1⟩),
    .command Command.all 11 6 (Bytes.ofWireId ⟨1⟩ ++ Bytes.ofInt32 0 ++ Bytes.ofInt32 (-1))]

/-- It asks for the objects in some slots of the frame. -/
def askSlots (slots : List Int32) : Happening InMemory :=
  .command Command.all 16 1 (Bytes.ofWireId ⟨1⟩ ++ Bytes.ofWireId ⟨2⟩ ++
    Bytes.ofCount slots.length ++ slots.flatMap fun slot => Bytes.ofInt32 slot ++ [76])

/-- It gives a reference to the id 5 back. -/
def giveBack : Happening InMemory :=
  .command Command.all 1 14 (Bytes.ofCount 1 ++ Bytes.ofWireId ⟨5⟩ ++ Bytes.ofInt32 1)

/-- The debugger gets the object twice, and gives one reference back. -/
def askTwice : List (Happening InMemory) :=
  enterFrame ++ [askSlots [0], askSlots [0], giveBack]

/-- Its second question goes one slot too far. -/
def askTooFar : List (Happening InMemory) := enterFrame ++ [askSlots [0], askSlots [0, 1]]

/-- The object goes with the one reference that is owed. -/
theorem references_owed_once : ∃ b, Backend.new {} oneLocal = .ok b ∧
    b.owed ⟨5⟩ 0 askTwice = 1 ∧
    ∃ x, (b.after askTwice).registry.live? ⟨5⟩ = some x ∧ x.references = 1 ∧
      ∀ count, ((b.after askTwice).registry.disposeObjects ⟨5⟩ count).live? ⟨5⟩ = none ↔
        x.references ≤ count := by
  have hlive : ∀ b, Backend.new {} oneLocal = .ok b →
      (b.after askTwice).registry.live? ⟨5⟩ =
        some ⟨⟨5⟩, ⟨3⟩, .object .plain, none, 1, 0, false, false⟩ := by
    rintro b ⟨rfl⟩
    decide +kernel
  have howed : ∀ b, Backend.new {} oneLocal = .ok b → b.owed ⟨5⟩ 0 askTwice = 1 := by
    rintro b ⟨rfl⟩
    decide +kernel
  have hnew : Backend.new {} oneLocal = .ok _ := rfl
  obtain ⟨-, hexact, hreleased, -⟩ :=
    references_owed hnew (by decide +kernel) (by decide +kernel) (hlive _ hnew) rfl
  have hone := (hexact (by decide +kernel)).trans (howed _ hnew)
  exact ⟨_, hnew, howed _ hnew, _, hlive _ hnew, hone, hreleased rfl⟩

/-- **A command that fails at its second slot hands out what it does not write**: the object is
written once, and outlives the one reference that is owed. -/
theorem references_not_owed : ∃ b, Backend.new {} oneLocal = .ok b ∧
    b.owed ⟨5⟩ 0 askTooFar = 1 ∧
    ∃ x, (b.after askTooFar).registry.live? ⟨5⟩ = some x ∧ x.kind.isObject ∧ x.pins = 0 ∧
      ((b.after askTooFar).registry.disposeObjects ⟨5⟩ 1).live? ⟨5⟩ ≠ none :=
  ⟨_, rfl, by decide +kernel, ⟨⟨5⟩, ⟨3⟩, .object .plain, none, 2, 0, false, false⟩,
    by decide +kernel, rfl, rfl, by decide +kernel⟩

end Backend
end DebugWire

import DebugWire.Proofs.Session.Answered
import DebugWire.Proofs.Session.Doing

/-!
# Proofs/Session/Faithful — replies that say what was asked for

A command that tells something first reads from the payload what it is asked for, and asks the
target; then it writes the reply.  The first part leaves the backend alone, so `Parses` says when it
succeeds, and with what.  It fails with a code (`CommandError.Coded`), and the second part does not
fail where the target knows what it told of.  So a reply that has a body is one to something that
was asked for, and is read to its last byte as what it is to tell (`Backend.Faithful`).
-/

namespace DebugWire

open Registry

variable {α β γ σ : Type}

/-! ## Failures with a code -/

/-- The failure is told with a code, and not as a success. -/
def CommandError.Coded (e : CommandError) : Prop :=
  ∃ code, e.replyCode = some code ∧ code ≠ .none

theorem CommandError.Blames.coded {e : CommandError} (h : e.Blames) : e.Coded := h.replyCode

/-- The failure of the target is told with a code, and not as a success. -/
def TargetError.Coded (e : TargetError) : Prop := (CommandError.ofTarget e).Coded

theorem TargetError.coded_reported {code : ReplyCode} (h : code ≠ .none) :
    (TargetError.reported code).Coded := ⟨code, rfl, h⟩

namespace InMemory

/-- An answer, or a failure that is told with a code. -/
theorem keeps_elim {t : InMemory} {x : TargetCall InMemory α} {found : Option α} (code : ReplyCode)
    (hcode : code ≠ .none) (hrun : x.run t = (found.elim (.error (.reported code)) .ok, t)) :
    Attempt.Keeps (· = t) TargetError.Coded x := by
  rintro _ rfl
  rw [hrun]
  refine ⟨rfl, fun e he => ?_⟩
  cases found with
  | none => exact Except.error.inj he ▸ TargetError.coded_reported hcode
  | some a => cases he

namespace Working

variable {t : InMemory} (h : t.Working)

include h

/-- A look-up leaves the target as it is, and fails with its code. -/
theorem keeps_lookUp (code : ReplyCode) (hcode : code ≠ .none) (find : InMemory → Option α) :
    Attempt.Keeps (· = t) TargetError.Coded (lookUp code find) :=
  keeps_elim code hcode (h.run_lookUp code find)

theorem run_debugInfo_of_none {method : Handle} (hmethod : t.methods[method]? = none)
    (info : LoadedMethod → Option α) :
    Attempt.run (debugInfo method info) t = (.error (.reported .invalidMethodId), t) := by
  rw [debugInfo, h.run_guarded, Attempt.run_bind_of_ok (Attempt.run_get t), hmethod]
  rfl

theorem keeps_debugInfo (method : Handle) (info : LoadedMethod → Option α) :
    Attempt.Keeps (· = t) TargetError.Coded (debugInfo method info) := by
  cases hmethod : t.methods[method]? with
  | none =>
    have hrun : Attempt.run (debugInfo method info) t =
        ((none : Option α).elim (.error (.reported .invalidMethodId)) .ok, t) :=
      h.run_debugInfo_of_none hmethod info
    exact keeps_elim .invalidMethodId nofun hrun
  | some m => exact keeps_elim .absentInformation nofun (h.run_debugInfo hmethod info)

/-- A call that looks something up answers what is there. -/
theorem run_lookUp_eq_ok_iff {code : ReplyCode} {find : InMemory → Option α} {a : α} :
    (Attempt.run (lookUp code find) t).1 = .ok a ↔ find t = some a := by
  rw [h.run_lookUp]
  cases find t <;> simp

/-- The information is told if the method is loaded and has it. -/
theorem run_debugInfo_eq_ok_iff {method : Handle} {info : LoadedMethod → Option α} {a : α} :
    (Attempt.run (debugInfo method info) t).1 = .ok a ↔
      ∃ m, t.methods[method]? = some m ∧ info m = some a := by
  cases hmethod : t.methods[method]? with
  | none =>
    rw [h.run_debugInfo_of_none hmethod]
    exact iff_of_false nofun nofun
  | some m =>
    rw [h.run_debugInfo hmethod]
    cases hinfo : info m <;> simp [hinfo]

end Working
end InMemory

/-! ## Steps that only look -/

namespace Parses

variable {b : Backend σ}

/-- The target is asked something that leaves it as it is. -/
theorem call {E : TargetError → Prop} {x : TargetCall σ α}
    (hx : Attempt.Keeps (· = b.target) E x) :
    Parses (Call.mk b) (Action.call x) fun bs a => bs = [] ∧ (x.run b.target).1 = .ok a := by
  intro p rest a c
  have hcall : (Action.call x).run ⟨b, ⟨p, rest⟩⟩ = (Attempt.ofExcept
      ((x.run b.target).1.mapError CommandError.ofTarget)).run ⟨b, ⟨p, rest⟩⟩ := by
    rw [Action.call, Attempt.run_within, Attempt.run_ofExcept, (hx _ rfl).1]
  rw [hcall]
  have hanswer : Parses (Call.mk b)
      (Attempt.ofExcept ((x.run b.target).1.mapError CommandError.ofTarget) : Action σ α)
      fun bs a => bs = [] ∧ (x.run b.target).1 = .ok a :=
    (Parses.ofExcept _).congr fun bs a => and_congr_right fun _ => Attempt.mapError_eq_ok_iff
  exact hanswer p rest a c

theorem lookUp (f : Registry → Except CommandError α) :
    Parses (Call.mk b) (Action.lookUp f) fun bs a => bs = [] ∧ f b.registry = .ok a :=
  -- The table that is looked at is that of `b` throughout.
  fun p rest a c => Parses.ofExcept (f b.registry) p rest a c

theorem type : Parses (Call.mk b) (Action.type : Action σ Handle) fun bs type =>
    ∃ id tag, bs = Bytes.ofWireId id ∧ b.registry.resolveType id = .ok (type, tag) := by
  refine ((Parses.decode (b.registry.parses_readType)).last fun t => .pure t.1).congr
    fun bs type => ?_
  constructor
  · rintro ⟨⟨type, tag⟩, ⟨id, rfl, hid⟩, rfl⟩
    exact ⟨id, tag, rfl, hid⟩
  · rintro ⟨id, tag, rfl, hid⟩
    exact ⟨(type, tag), ⟨id, rfl, hid⟩, rfl⟩

end Parses

namespace Action

variable {t : σ}

/-- What the target is asked leaves it as it is. -/
theorem keeps_call_coded {x : TargetCall σ α}
    (hx : Attempt.Keeps (· = t) TargetError.Coded x) :
    Keeps (Backend.HasTarget t) CommandError.Coded (call x) :=
  hx.within (fun _ h => h) (fun _ _ _ h => h) fun _ he => he

/-- An id that is refused is refused with a code. -/
theorem keeps_lookUp_coded {f : Registry → Except CommandError α}
    (hf : ∀ r e, f r = .error e → e.Blames) :
    Keeps (Backend.HasTarget t) CommandError.Coded (lookUp f : Action σ α) :=
  keeps_backend.bind fun b => .ofExcept fun e he => (hf b.registry e he).coded

theorem keeps_type_coded :
    Keeps (Backend.HasTarget t) CommandError.Coded (type : Action σ Handle) :=
  (keeps_decode (fun _ h => h.coded) fun _ => Registry.blames_readType).bind fun _ => .pure _

end Action

/-! ## Replies -/

namespace Backend

variable [Target σ] {b : Backend σ} {c : Command} {F : Bytes → α → Prop}

/-- A command is asked for what `F` spells, and tells it so that `x` reads what `Says` relates it
to, by the table right after the reply. -/
structure Faithful (b : Backend σ) (c : Command) (F : Bytes → α → Prop) (x : Read β)
    (Says : Registry → α → β → Prop) : Prop where
  /-- What is asked for is told, whatever follows in the payload. -/
  told : ∀ asked rest a, F asked a → ∃ body b', b.ask c (asked ++ rest) = (.ok (.ok body), b') ∧
    (b'.registry.HasRoom → ∃ d, x.run (.start body) = (.ok d, ⟨body.length, []⟩) ∧
      Says b'.registry a d)
  /-- Nothing else is told. -/
  only : ∀ payload body b', b.ask c payload = (.ok (.ok body), b') →
    ∃ asked rest a, payload = asked ++ rest ∧ F asked a

/-- A command that is asked for a thing without ids tells it as it is. -/
structure Plainly (b : Backend σ) (c : Command) (F : Bytes → α → Prop) (x : Read α) : Prop where
  told : ∀ asked rest a, F asked a → ∃ body, b.ask c (asked ++ rest) = (.ok (.ok body), b) ∧
    x.run (.start body) = (.ok a, ⟨body.length, []⟩)
  only : ∀ payload body b', b.ask c payload = (.ok (.ok body), b') →
    ∃ asked rest a, payload = asked ++ rest ∧ F asked a

/-- A command reads what it is asked for, and then replies. -/
structure Asks (b : Backend σ) (c : Command) (F : Bytes → α → Prop)
    (reply : α → Action σ Body) : Prop where
  alive : Target.isAlive b.target
  front : ∃ front : Action σ α, c.answer = front >>= reply ∧ Parses (Call.mk b) front F ∧
    Action.Keeps (HasTarget b.target) CommandError.Coded front

namespace Asks

variable {reply : α → Action σ Body}

/-- What is asked for is replied to. -/
theorem ask_eq (h : b.Asks c F reply) {asked rest : Bytes} {a : α} (hasked : F asked a)
    {body : Body} {d : Call σ}
    (hreply : (reply a).run ⟨b, ⟨asked.length, rest⟩⟩ = (.ok body, d)) :
    b.ask c (asked ++ rest) = (.ok (.ok body.bytes), d.backend) := by
  obtain ⟨front, hanswer, hparses, -⟩ := h.front
  have hfront := hparses.run hasked 0 rest
  rw [Nat.zero_add] at hfront
  refine ask_of_ok h.alive ?_
  rw [Action.perform, Cursor.start, hanswer, Attempt.run_bind_of_ok hfront, hreply]

/-- What has a body is a reply to something that is asked for. -/
theorem only (h : b.Asks c F reply) {payload body : Bytes} {b' : Backend σ}
    (hok : b.ask c payload = (.ok (.ok body), b')) :
    ∃ asked rest a, payload = asked ++ rest ∧ F asked a := by
  obtain ⟨front, hanswer, hparses, hkeeps⟩ := h.front
  rcases hfront : front.run ⟨b, .start payload⟩ with ⟨e | a, d⟩
  · obtain ⟨code, hcode, hnone⟩ := (hkeeps ⟨b, .start payload⟩ rfl).2 e (by rw [hfront])
    have hperform : c.answer.perform payload b = (.error e, d.backend) := by
      rw [Action.perform, hanswer, Attempt.run_bind_of_error hfront]
    rw [ask_of_error h.alive hperform hcode] at hok
    have hsame : Reply.failed code = .ok body := Except.ok.inj (congrArg Prod.fst hok)
    exact absurd (congrArg Reply.code hsame) hnone
  · obtain ⟨asked, rest, hasked, hpayload, -⟩ := (hparses 0 payload a d).mp hfront
    exact ⟨asked, rest, a, hpayload, hasked⟩

/-- **A list that is told is faithful**, if it is written item by item in a way that is told.  Of
some objects it has to be known what they are. -/
theorem faithful_list (h : b.Asks c F reply) (hb : b.registry.Reachable)
    (kinds : Handle → ObjectKind) {S : Handle → Prop}
    (hknown : ∀ handle, S handle → b.registry.KnownAs (kinds handle) handle) {x : Read β}
    {R : Registry → γ → β → Prop} (hR : ∀ i d, Lasting (R · i d)) (items : α → List γ)
    (write : γ → StateM Registry Body)
    (hdoes : ∀ asked a, F asked a → (items a).length < 2 ^ 31 ∧
      Action.Does b.target (reply a) (Writing.list (items a) write))
    (hwrite : ∀ asked a, F asked a → ∀ kinds' : Handle → ObjectKind,
      (∀ handle, S handle → kinds' handle = kinds handle) → ∀ i ∈ items a,
        Writing.Tells kinds' (write i) (Spells x fun s d => R s i d)) :
    b.Faithful c F (Read.list x) fun r a => List.Forall₂ (R r) (items a) where
  told asked rest a hasked := by
    obtain ⟨hmany, hlist⟩ := hdoes asked a hasked
    have htells (kinds' : Handle → ObjectKind)
        (hsame : ∀ handle, S handle → kinds' handle = kinds handle) :=
      Writing.tells_list hR hmany (hwrite asked a hasked kinds' hsame)
    refine ⟨_, _, h.ask_eq hasked (hlist ⟨b, ⟨asked.length, rest⟩⟩ rfl), fun hroom => ?_⟩
    have hlater := (htells kinds (fun _ _ => rfl) b.registry).1.later
    have hwf : b.registry.WellFormed := hb.wellFormed (HasRoom.of_later hroom hlater)
    obtain ⟨kinds', huniform, hsame⟩ := hwf.exists_uniform hknown
    obtain ⟨ds, hreads, hsays⟩ := (htells kinds' hsame b.registry).2 huniform hroom
    exact ⟨ds, hreads.run_start, hsays⟩
  only _ _ _ := h.only

/-- A list without objects: nothing has to be known. -/
theorem faithful_declared (h : b.Asks c F reply) (hb : b.registry.Reachable) {x : Read β}
    {R : Registry → γ → β → Prop} (hR : ∀ i d, Lasting (R · i d)) (items : α → List γ)
    (write : γ → StateM Registry Body)
    (hdoes : ∀ asked a, F asked a → (items a).length < 2 ^ 31 ∧
      Action.Does b.target (reply a) (Writing.list (items a) write))
    (hwrite : ∀ asked a, F asked a → ∀ kinds : Handle → ObjectKind, ∀ i ∈ items a,
      Writing.Tells kinds (write i) (Spells x fun s d => R s i d)) :
    b.Faithful c F (Read.list x) fun r a => List.Forall₂ (R r) (items a) :=
  h.faithful_list hb (fun _ => .plain) (S := fun _ => False) nofun hR items write hdoes
    fun asked a hasked kinds _ => hwrite asked a hasked kinds

/-- A reply without ids does not depend on the table at all. -/
theorem plainly (h : b.Asks c F reply) {x : Read α}
    (hreply : ∀ asked a, F asked a → ∃ body : Body, reply a = pure body ∧ Reads x body.bytes a) :
    b.Plainly c F x where
  told asked rest a hasked := by
    obtain ⟨body, hpure, hreads⟩ := hreply asked a hasked
    exact ⟨_, h.ask_eq (d := ⟨b, ⟨asked.length, rest⟩⟩) hasked (by rw [hpure]; rfl),
      hreads.run_start⟩
  only _ _ _ := h.only

end Asks
end Backend
end DebugWire

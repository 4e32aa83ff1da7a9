import DebugWire.Proofs.Registry.Growth
import DebugWire.Proofs.Session.Settling

/-!
# Proofs/Session/Inquiry — to ask is not to disturb

Five commands take ids away (`Command.takesAway`).  Any other, whatever its payload and however it
ends, leaves every id resolve as before (`Command.grows_of_mayCall`): what it registers on the way,
and what is swept for it, takes nothing away.  The suspensions and the requests change by the
commands that are there for this, and by no others (`Backend.undisturbed_of_run`).
-/

namespace DebugWire

variable {σ : Type}

/-! ## Which calls a query makes -/

namespace Command

/-- The command takes ids away. -/
def takesAway : Command → Bool
  | .dispose | .resume | .disposeObjects | .enableCollection | .resumeThread => true
  | _ => false

/-- The command suspends something. -/
def suspends : Command → Bool
  | .suspend | .suspendThread => true
  | _ => false

/-- Whatever else a command does to the table, it takes nothing away. -/
theorem grows_of_mayCall {c : Command} {op : Operation} (hc : ¬ c.takesAway)
    (h : c.mayCall op) : op.grows := by
  cases op with
  | dispose | entityFreed => simp [mayCall, Operation.registersOther, Operation.registers] at h
  | disposeObjects | enableCollection | invalidateFrames | disposeAll =>
    cases c <;> simp_all [mayCall, takesAway, Operation.registersOther, Operation.registers]
  | _ => rfl

end Command

namespace Backend

/-- What is left as it was by a command with these numbers. -/
structure Undisturbed (commandSet command : UInt8) (b b' : Backend σ) : Prop where
  /-- Every id that resolved resolves to the same entity, whatever is expected of it. -/
  resolves : ∀ id expected handle, b.registry.resolve id expected = .ok handle →
    b'.registry.resolve id expected = .ok handle
  /-- A reference type keeps its tag. -/
  resolvesType : ∀ id type, b.registry.resolveType id = .ok type →
    b'.registry.resolveType id = .ok type
  /-- Only to suspend changes what is suspended. -/
  suspension : (∀ c : Command, c.suspends → c.numbers ≠ (commandSet, command)) →
    b'.suspension = b.suspension
  /-- The requests are changed by the commands of their own set. -/
  requests : commandSet ≠ Command.setRequest.numbers.1 → b'.requests = b.requests

theorem Undisturbed.refl (commandSet command : UInt8) (b : Backend σ) :
    Undisturbed commandSet command b b :=
  ⟨fun _ _ _ h => h, fun _ _ h => h, fun _ => rfl, fun _ => rfl⟩

/-- What suspends nothing, and takes nothing away, leaves the suspensions alone. -/
theorem Settles.suspension_eq {b b' : Backend σ} {payload : Bytes} {c : Command}
    {r : Except CommandError Body} (h : b.Settles payload c r b') (hc : ¬ c.takesAway)
    (hsuspends : ¬ c.suspends) : b'.suspension = b.suspension := by
  cases h with
  | calm | unread | setRequest | clearRequest | clearBreakpoints => rfl
  | dispose | resume | resumeThread | letGo => exact absurd rfl hc
  | suspend | suspendThread => exact absurd rfl hsuspends

/-- Only a command about requests changes them, and the end of a session. -/
theorem Settles.requests_eq {b b' : Backend σ} {payload : Bytes} {c : Command}
    {r : Except CommandError Body} (h : b.Settles payload c r b') (hc : ¬ c.takesAway)
    (hset : c.numbers.1 ≠ Command.setRequest.numbers.1) : b'.requests = b.requests := by
  cases h with
  | calm | unread | suspend | resume | suspendThread | resumeThread | letGo => rfl
  | dispose => exact absurd rfl hc
  | setRequest | clearRequest | clearBreakpoints => exact absurd rfl hset

variable [Target σ] {b : Backend σ} {known : List Command} {commandSet command : UInt8}
  {c : Command}

/-- What is carried out has the numbers that were asked for. -/
theorem numbers_of_carries (h : b.carries? known commandSet command = some c) :
    c.numbers = (commandSet, command) := by
  have hfind : Command.find? known commandSet command = some c :=
    (Option.filter_eq_some_iff.mp h).1
  simpa using List.find?_some hfind

/-- **A command that takes nothing away leads to a table that extends the one before**, also where
it fails halfway. -/
theorem extends_run (hb : b.registry.WellFormed)
    (h : b.carries? known commandSet command = some c) (hc : ¬ c.takesAway) (payload : Bytes)
    (hroom : (b.run known commandSet command payload).2.registry.HasRoom) :
    b.registry.Extends (b.run known commandSet command payload).2.registry := by
  obtain ⟨named, ⟨ops, hops, hregistry, -⟩, -⟩ := handing_run h payload
  rw [hregistry] at hroom ⊢
  exact hb.extends_run (fun op hop => Command.grows_of_mayCall hc (hops op hop)) hroom

/-- **To ask is not to disturb**, at any moment of any course of happenings. -/
theorem undisturbed_of_run {settings : BackendSettings} {target : σ}
    (hnew : Backend.new settings target = .ok b) (hs : List (Happening σ))
    (hquery : ∀ c : Command, c.takesAway → c.numbers ≠ (commandSet, command)) (payload : Bytes)
    (hroom : ((b.after hs).run known commandSet command payload).2.registry.HasRoom) :
    Undisturbed commandSet command (b.after hs)
      ((b.after hs).run known commandSet command payload).2 := by
  obtain hkept | ⟨c, hcarries, hsettles⟩ :=
    kept_or_settles (b.after hs) known commandSet command payload
  · rw [hkept]
    exact .refl commandSet command _
  have hnumbers := numbers_of_carries hcarries
  have hc : ¬ c.takesAway := fun htakes => hquery c htakes hnumbers
  have hb : b.registry.WellFormed := registry_of_new hnew ▸ Registry.WellFormed.new _ _
  have hlater : Registry.Later (b.after hs).registry
      ((b.after hs).run known commandSet command payload).2.registry := by
    obtain ⟨named, hhanding, -⟩ := handing_run hcarries payload
    exact hhanding.follows.later
  have hwf := (follows_after hs b).wellFormed hb (hroom.of_later hlater)
  have hextends := extends_run hwf hcarries hc payload hroom
  refine ⟨fun _ _ _ => hextends.resolve, fun _ _ => hextends.resolveType, fun hcalm => ?_,
    fun hset => ?_⟩
  · exact hsettles.suspension_eq hc fun hsuspends => hcalm c hsuspends hnumbers
  · refine hsettles.requests_eq hc ?_
    rwa [congrArg Prod.fst hnumbers]

/-- The first thread has a frame with the id 3, and a debugger asks of what type the thread is.  The
type gets an id, and the frame keeps its own. -/
theorem undisturbed_of_objectType : ∃ b, Backend.new {} twoThreads = .ok b ∧
    ((b.after (suspendBoth ++ [.command Command.all 11 6 askFrames])).registry.resolve
      ⟨3⟩ .frame).toOption = some ⟨7⟩ ∧
    Undisturbed 9 1 (b.after (suspendBoth ++ [.command Command.all 11 6 askFrames]))
      ((b.after (suspendBoth ++ [.command Command.all 11 6 askFrames])).run Command.all 9 1
        (Bytes.ofWireId ⟨1⟩)).2 := by
  have hnew : Backend.new {} twoThreads = .ok _ := rfl
  have hquery : ∀ c : Command, c.takesAway → c.numbers ≠ (9, 1) := by
    intro c
    cases c <;> decide
  exact ⟨_, hnew, by decide +kernel, undisturbed_of_run hnew _ hquery _ (by decide +kernel)⟩

end Backend
end DebugWire

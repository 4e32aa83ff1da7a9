import DebugWire.Proofs.Registry.References
import DebugWire.Proofs.Session.Failure

/-!
# Proofs/Session/Malformed — what a malformed command does

All commands but one read the whole payload before they change anything, so a malformed payload
changes nothing.  `disposeObjects` takes references back while it reads: what stands in front of the
fault is done (`run_disposeObjects`).  Both together are `run_of_malformed`.
-/

namespace DebugWire

variable {α σ : Type}

/-! ## In front of a fault -/

namespace Read

/-- The items of a list that stand in front of the first fault. -/
def upToFault (x : Read α) : Nat → Cursor → List α
  | 0, _ => []
  | n + 1, c =>
      match Attempt.run x c with
      | (.ok a, c) => a :: upToFault x n c
      | (.error _, _) => []

/-- An item of the payload of `disposeObjects`: an id, and how many references to it are given
back. -/
def reference : Read (WireId × Nat) := do
  let id ← wireId
  let count ← int32
  return (id, count.toNatClampNeg)

/-- The items of a payload of `disposeObjects` that stand in front of the first fault. -/
def references (payload : Bytes) : List (WireId × Nat) :=
  match Attempt.run count (.start payload) with
  | (.ok n, c) => upToFault reference n c
  | (.error _, _) => []

end Read

namespace Answer

open DebugWire.Action

/-- Read an item, and take its references back. -/
def takeBackOne : Action σ Unit := do
  let id ← read Read.wireId
  let count ← read Read.int32
  registry fun r => ((), r.disposeObjects id count.toNatClampNeg)

theorem run_takeBackOne (b : Backend σ) (c : Cursor) :
    Attempt.run takeBackOne (⟨b, c⟩ : Call σ) =
      match Attempt.run Read.reference c with
      | (.ok item, d) => (.ok (), ⟨{ b with registry := b.registry.takeBack [item] }, d⟩)
      | (.error e, d) => (.error (.malformed e), ⟨b, d⟩) := by
  rw [takeBackOne, Read.reference]
  simp only [Attempt.run_bind, Action.read, Attempt.run_within]
  rcases Attempt.run Read.wireId c with ⟨e | id, d⟩
  · rfl
  · simp only [Attempt.mapError_ok]
    rcases Attempt.run Read.int32 d with ⟨e | count, d'⟩ <;> rfl

/-- Some items, up to the first fault. -/
theorem backend_times_takeBackOne (n : Nat) (b : Backend σ) (c : Cursor) :
    (Attempt.run (times n takeBackOne) (⟨b, c⟩ : Call σ)).2.backend =
      { b with registry := b.registry.takeBack (Read.upToFault Read.reference n c) } := by
  induction n generalizing b c with
  | zero => rfl
  | succ n ih =>
    rw [times, Attempt.run_bind, run_takeBackOne, Read.upToFault]
    rcases Attempt.run Read.reference c with ⟨e | item, d⟩
    · rfl
    · simp only
      rw [← map_eq_pure_bind, Attempt.run_map]
      exact ih { b with registry := b.registry.takeBack [item] } d

/-- **References are taken back up to the first fault**, and nothing else happens. -/
theorem backend_disposeObjects (payload : Bytes) (b : Backend σ) :
    (disposeObjects.perform payload b).2 =
      { b with registry := b.registry.takeBack (Read.references payload) } := by
  change (Attempt.run (read Read.count >>= fun n => times n takeBackOne >>= fun _ => pure [])
    (⟨b, .start payload⟩ : Call σ)).2.backend = _
  rw [Attempt.run_bind, Action.read, Attempt.run_within, Read.references]
  rcases Attempt.run Read.count (.start payload) with ⟨e | n, c⟩
  · rfl
  · simp only [Attempt.mapError_ok]
    rw [← map_eq_pure_bind, Attempt.run_map]
    exact backend_times_takeBackOne n b c

end Answer

namespace Backend

variable [Target σ]

/-- What a command takes back. -/
def takenBack (b : Backend σ) (known : List Command) (commandSet command : UInt8)
    (payload : Bytes) : List (WireId × Nat) :=
  if b.carries? known commandSet command = some .disposeObjects then Read.references payload else []

theorem run_disposeObjects {b : Backend σ} {known : List Command} {commandSet command : UInt8}
    (h : b.carries? known commandSet command = some .disposeObjects) (payload : Bytes) :
    (b.run known commandSet command payload).2 =
      { b with registry := b.registry.takeBack (Read.references payload) } := by
  rw [run_of_carries h, ← Answer.backend_disposeObjects]
  exact Action.perform_map Body.plain Answer.disposeObjects payload b

/-- **A malformed command has no effect, except for what it takes back.** -/
theorem run_of_malformed {b : Backend σ} {known : List Command} {commandSet command : UInt8}
    {payload : Bytes} {e : DecodeError}
    (h : (b.run known commandSet command payload).1 = .error (.malformed e)) :
    (b.run known commandSet command payload).2 =
      { b with
        target := (b.run known commandSet command payload).2.target
        registry := b.registry.takeBack (b.takenBack known commandSet command payload) } := by
  unfold takenBack
  split
  · next hcarries => rw [run_disposeObjects hcarries]
  · next hother =>
    cases hcarries : b.carries? known commandSet command with
    | none =>
      obtain hrun | hrun := run_of_carries_none hcarries payload <;> rw [hrun] at h <;>
        exact absurd h nofun
    | some c =>
      rw [run_of_carries hcarries] at h ⊢
      have hundone : Action.Undone (fun e => ∃ f, e = .malformed f) (c.answer : Action σ Body) := by
        refine Command.undone_answer (fun hc => hother (hc ▸ hcarries)) fun _ e => ?_
        rintro ⟨f, hf⟩
        cases e <;> cases hf
      exact hundone ⟨b, .start payload⟩ _ h ⟨e, rfl⟩

/-- A backend that has told of a thread, by the id 1. -/
def toldOfThread (b : Backend InMemory) : Backend InMemory :=
  b.after [.connected, .report (.vmStart ⟨7⟩)]

/-- Two items for the id 1, the second one cut off. -/
def cutOff : Bytes := [0, 0, 0, 2, 0, 0, 0, 0, 0, 0, 0, 1, 0, 0, 0, 1, 0, 0]

/-- The second item is cut off, and the first is taken back. -/
theorem run_of_malformed_cutOff : ∃ b, Backend.new {} InMemory.new = .ok b ∧
    (b.toldOfThread.run Command.all 1 14 cutOff).1 = .error (.malformed (.truncated 8 16 18)) ∧
    (b.toldOfThread.run Command.all 1 14 cutOff).2 =
      { b.toldOfThread with
        target := (b.toldOfThread.run Command.all 1 14 cutOff).2.target
        registry := b.toldOfThread.registry.takeBack [(⟨1⟩, 1)] } := by
  have hmalformed : ∀ b, Backend.new {} InMemory.new = .ok b →
      (b.toldOfThread.run Command.all 1 14 cutOff).1 =
        .error (.malformed (.truncated 8 16 18)) := by
    rintro b ⟨rfl⟩
    rfl
  exact ⟨_, rfl, hmalformed _ rfl, run_of_malformed (hmalformed _ rfl)⟩

/-- The command fails, and the thread that it named first has lost its id. -/
theorem malformed_takes_back : ∃ b, Backend.new {} InMemory.new = .ok b ∧
    (b.toldOfThread.run Command.all 1 14 cutOff).1 = .error (.malformed (.truncated 8 16 18)) ∧
    b.toldOfThread.registry.kindOf? ⟨1⟩ = some (.object .thread) ∧
    (b.toldOfThread.run Command.all 1 14 cutOff).2.registry.kindOf? ⟨1⟩ = none :=
  ⟨_, rfl, rfl, by decide, by decide⟩

end Backend
end DebugWire

import DebugWire.Proofs.Registry.Handing
import DebugWire.Session.Action

/-!
# Proofs/Session/Calls — which calls of the table a program makes

A program that hands out ids is followed by its calls of the table.  `Calls p L x names` says that
all of them pass `p`, whether `x` fails or not, and that the result of `x`, if there is one, names
what they hand out, behind `L`.  The rules below go along the way a program is built; a program that
changes nothing but the target (`Action.Quiet`) makes no calls.
-/

namespace DebugWire

variable {α β σ : Type}

/-! ## Programs of the registry -/

namespace Writing

open Registry

/-- The calls of a program of the registry pass `p`, and hand out what its result names. -/
def Calls (p : Operation → Bool) (L : List Naming) (x : StateM Registry α)
    (names : α → List Naming) : Prop :=
  ∀ r : Registry, Handing p L r (x.run r).2 (names (x.run r).1)

variable {p : Operation → Bool} {L : List Naming} {names : α → List Naming}

/-- A result without calls names what was named before. -/
theorem Calls.pure {a : α} (h : names a = L) : Calls p L (Pure.pure a) names :=
  fun r => h.symm ▸ .refl p L r

/-- **One program after the other.** -/
theorem Calls.bind {names' : β → List Naming} {x : StateM Registry α} {f : α → StateM Registry β}
    (hx : Calls p L x names) (hf : ∀ a, Calls p (names a) (f a) names') :
    Calls p L (x >>= f) names' :=
  fun r => (hx r).trans (hf (x.run r).1 (x.run r).2)

/-- Only what the result names counts, not its form. -/
theorem Calls.map {g : α → β} {names' : β → List Naming} {x : StateM Registry α}
    (hx : Calls p L x fun a => names' (g a)) : Calls p L (g <$> x) names' := hx

/-- One body for each item. -/
theorem Calls.mapM {item : α → StateM Registry Body} :
    ∀ (xs : List α) (L : List Naming),
      (∀ a ∈ xs, ∀ L, Calls p L (item a) fun body => L ++ body.names) →
        Calls p L (xs.mapM item) fun bodies => L ++ Body.names bodies.flatten
  | [], L, _ => .pure (List.append_nil L)
  | x :: xs, L, h => by
      rw [List.mapM_cons]
      refine (h x List.mem_cons_self L).bind fun body => ?_
      refine (Calls.mapM xs _ fun a ha => h a (List.mem_cons_of_mem _ ha)).bind fun bodies => ?_
      exact .pure (by simp)

/-- A call of the registry, perhaps with a different look at its answer. -/
theorem calls_perform {op : Operation} (hop : p op) {f : Registry → α × Registry}
    (hstate : ∀ r, (f r).2 = (op.perform r).2)
    (hnames : ∀ r, names (f r).1 = L ++ (op.naming? (op.perform r).1).toList) :
    Calls p L (modifyGet f) names := by
  intro r
  change Handing p L r (f r).2 (names (f r).1)
  rw [hstate, hnames]
  exact .perform hop L r

/-- A registration names the entity by the id that it answers. -/
theorem calls_register (handle : Handle) (kind : EntityKind) (hop : p (.register handle kind)) :
    Calls p L (modifyGet (·.register handle kind)) fun id => L ++ [(handle, id)] :=
  calls_perform hop (fun _ => rfl) fun _ => rfl

/-- Nothing is named where there is no entity. -/
theorem calls_registerOptional (handle : Option Handle) (kind : EntityKind)
    (hop : p (.registerOptional handle kind)) :
    Calls p L (modifyGet (·.registerOptional handle kind))
      fun id => L ++ (Body.ofOptional handle id).names := by
  refine calls_perform hop (fun _ => rfl) fun r => ?_
  cases handle <;> rfl

theorem calls_registerTagged (type : Handle) (tag : TypeTag) (hop : p (.registerTagged type tag)) :
    Calls p L (modifyGet (·.registerTagged type tag)) fun t => L ++ [(type, t.id)] :=
  calls_perform hop (fun _ => rfl) fun _ => rfl

/-- A primitive is written without the table; a reference is registered under its kind. -/
theorem calls_toWire (v : TargetValue) (hop : p (.toWire v)) :
    Calls p L (modifyGet (·.toWire v)) fun w => L ++ (Body.ofValue v w).names := by
  refine calls_perform hop (fun _ => rfl) fun r => congrArg (L ++ ·) ?_
  cases v with
  | primitive b => rfl
  | reference kind handle =>
    rw [Operation.naming?, id?_toWire_reference, toWire_reference]
    cases handle <;> rfl

end Writing

/-! ## Steps of a command -/

namespace Action

open Registry

/-- What becomes of a result does not matter to the backend. -/
theorem perform_map (f : α → β) (x : Action σ α) (payload : Bytes) (b : Backend σ) :
    ((f <$> x).perform payload b).2 = (x.perform payload b).2 :=
  congrArg (fun result => result.2.backend) (Attempt.run_map f x ⟨b, .start payload⟩)

/-- A step that changes nothing but the target, whether it fails or not. -/
def Quiet (x : Action σ α) : Prop :=
  ∀ c, (x.run c).2.backend = { c.backend with target := (x.run c).2.backend.target }

/-- The calls of a step pass `p`, and hand out what its result names, if there is one. -/
def Calls (p : Operation → Bool) (L : List Naming) (x : Action σ α) (names : α → List Naming) :
    Prop :=
  ∀ c, ∃ named, Handing p L c.backend.registry (x.run c).2.backend.registry named ∧
    ∀ a, (x.run c).1 = .ok a → names a = named

namespace Quiet

/-- So the table is the same afterwards, also if the step failed. -/
theorem registry {x : Action σ α} (hx : Quiet x) (c : Call σ) :
    (x.run c).2.backend.registry = c.backend.registry := by
  rw [hx c]

/-- And so are the counts. -/
theorem suspension {x : Action σ α} (hx : Quiet x) (c : Call σ) :
    (x.run c).2.backend.suspension = c.backend.suspension := by
  rw [hx c]

theorem pure (a : α) : Quiet (Pure.pure a : Action σ α) := fun _ => rfl

/-- An error is the plainest quiet step: what was done before it stays done. -/
theorem throw (e : CommandError) : Quiet (MonadExcept.throw e : Action σ α) := fun _ => rfl

/-- Both steps move the target; the rest is the backend of the first call. -/
theorem bind {x : Action σ α} {f : α → Action σ β} (hx : Quiet x) (hf : ∀ a, Quiet (f a)) :
    Quiet (x >>= f) := by
  intro c
  rw [Attempt.run_bind]
  have hbackend := hx c
  split
  · next a d hrun =>
    rw [hrun] at hbackend
    rw [hf a d, hbackend]
  · next e d hrun =>
    rw [hrun] at hbackend
    exact hbackend

theorem map {x : Action σ α} (hx : Quiet x) (f : α → β) : Quiet (f <$> x) := by
  intro c
  rw [Attempt.run_map]
  exact hx c

theorem backend : Quiet (backend : Action σ (Backend σ)) := fun _ => rfl

/-- A read that fails has moved the cursor at most. -/
theorem read (x : Read α) : Quiet (read x : Action σ α) := by
  intro c
  rw [Action.read, Attempt.run_within]

/-- **The target answers and may change**; the backend around it does not. -/
theorem call (x : TargetCall σ α) : Quiet (call x) := by
  intro c
  rw [Action.call, Attempt.run_within]

/-- A decoder may look into the table, as ids are resolved there. -/
theorem decode (x : Registry → Decode α) : Quiet (decode x : Action σ α) :=
  backend.bind fun b c => by rw [Attempt.run_within]

/-- An id that is refused is refused without a trace. -/
theorem lookUp (f : Registry → Except CommandError α) : Quiet (lookUp f : Action σ α) :=
  backend.bind fun b c => by rw [Attempt.run_ofExcept]

theorem refuse (code : ReplyCode) : Quiet (refuse code : Action σ α) := throw _

theorem ofExcept (x : Except CommandError α) : Quiet (Attempt.ofExcept x : Action σ α) := by
  intro c
  rw [Attempt.run_ofExcept]

theorem ite {p : Prop} [Decidable p] {x y : Action σ α} (hx : Quiet x) (hy : Quiet y) :
    Quiet (if p then x else y) := by
  split
  · exact hx
  · exact hy

/-- A step that is refused under a condition. -/
theorem guard {p : Prop} [Decidable p] {e : CommandError} {rest : Action σ α}
    (hrest : Quiet rest) :
    Quiet (if p then (MonadExcept.throw e : Action σ PUnit) >>= fun _ => rest else rest) :=
  .ite ((throw e).bind fun _ => hrest) hrest

/-- By induction on the count, which comes from the payload. -/
theorem times {x : Action σ α} (hx : Quiet x) : ∀ n, Quiet (times n x)
  | 0 => pure _
  | n + 1 => hx.bind fun _ => (times hx n).bind fun _ => pure _

theorem mapM {f : α → Action σ β} (hf : ∀ a, Quiet (f a)) : ∀ xs : List α, Quiet (xs.mapM f)
  | [] => pure _
  | x :: xs => by
      rw [List.mapM_cons]
      exact (hf x).bind fun _ => (mapM hf xs).bind fun _ => pure _

end Quiet

namespace Calls

variable {p : Operation → Bool} {L : List Naming} {names : α → List Naming}

/-- A step that leaves the table alone. -/
theorem of_kept {x : Action σ α}
    (hx : ∀ c, (x.run c).2.backend.registry = c.backend.registry) : Calls p L x fun _ => L :=
  fun c => ⟨L, hx c ▸ .refl p L _, fun _ _ => rfl⟩

/-- What is quiet leaves the table alone. -/
theorem of_quiet {x : Action σ α} (hx : Quiet x) : Calls p L x fun _ => L :=
  of_kept hx.registry

theorem pure {a : α} (h : names a = L) : Calls p L (Pure.pure a : Action σ α) names :=
  fun _ => ⟨L, .refl p L _, fun _ hb => Except.ok.inj hb ▸ h⟩

/-- A step that fails names nothing, so nothing is asked of `names`. -/
theorem throw (e : CommandError) : Calls p L (MonadExcept.throw e : Action σ α) names :=
  fun _ => ⟨L, .refl p L _, nofun⟩

/-- **One step after the other.** -/
theorem bind {names' : β → List Naming} {x : Action σ α} {f : α → Action σ β}
    (hx : Calls p L x names) (hf : ∀ a, Calls p (names a) (f a) names') :
    Calls p L (x >>= f) names' := by
  intro c
  rw [Attempt.run_bind]
  obtain ⟨named, hcalls, hnames⟩ := hx c
  split
  · next a d hrun =>
    rw [hrun] at hcalls hnames
    obtain ⟨named', hcalls', hnames'⟩ := hf a d
    rw [hnames a rfl] at hcalls'
    exact ⟨named', hcalls.trans hcalls', hnames'⟩
  · next e d hrun =>
    rw [hrun] at hcalls
    exact ⟨named, hcalls, nofun⟩

/-- A step that makes no calls, and then another. -/
theorem after {names' : β → List Naming} {x : Action σ α} {f : α → Action σ β} (hx : Quiet x)
    (hf : ∀ a, Calls p L (f a) names') : Calls p L (x >>= f) names' :=
  (of_quiet hx).bind hf

/-- The names are read through the result, as for the programs of the table. -/
theorem map {g : α → β} {names' : β → List Naming} {x : Action σ α}
    (hx : Calls p L x fun a => names' (g a)) : Calls p L (g <$> x) names' := by
  intro c
  rw [Attempt.run_map]
  obtain ⟨named, hcalls, hnames⟩ := hx c
  refine ⟨named, hcalls, fun b hb => ?_⟩
  cases hrun : (x.run c).1 with
  | error e =>
    rw [hrun] at hb
    exact absurd hb nofun
  | ok a =>
    rw [hrun] at hb
    obtain rfl : g a = b := Except.ok.inj hb
    exact hnames a hrun

/-- More calls may be allowed, which is how a step fits each command that takes it. -/
theorem mono {q : Operation → Bool} {x : Action σ α} (hx : Calls p L x names)
    (hpq : ∀ op, p op → q op) : Calls q L x names := by
  intro c
  obtain ⟨named, hcalls, hnames⟩ := hx c
  exact ⟨named, hcalls.mono hpq, hnames⟩

/-- Plain bytes name nothing. -/
theorem plain {x : Action σ Bytes} (hx : Calls p [] x fun _ => []) :
    Calls p [] (Body.plain <$> x) Body.names := map hx

/-- A program of the registry as a step. -/
theorem registry {f : Registry → α × Registry}
    (hf : Writing.Calls p L (modifyGet f : StateM Registry α) names) :
    Calls p L (registry f : Action σ α) names :=
  fun c => ⟨_, hf c.backend.registry, fun _ ha => Except.ok.inj ha ▸ rfl⟩

theorem ite {c : Prop} [Decidable c] {x y : Action σ α} (hx : Calls p L x names)
    (hy : Calls p L y names) : Calls p L (if c then x else y) names := by
  split
  · exact hx
  · exact hy

/-- A step that is refused under a condition. -/
theorem guard {c : Prop} [Decidable c] {e : CommandError} {rest : Action σ α}
    (hrest : Calls p L rest names) :
    Calls p L (if c then (MonadExcept.throw e : Action σ PUnit) >>= fun _ => rest else rest)
      names :=
  .ite (.after (.throw e) fun _ => hrest) hrest

theorem times {x : Action σ α} (hx : Calls p L x fun _ => L) :
    ∀ n, Calls p L (times n x) fun _ => L
  | 0 => pure rfl
  | n + 1 => hx.bind fun _ => (times hx n).bind fun _ => pure rfl

/-- One body for each item, named in their order, up to the first item that fails. -/
theorem mapM {item : α → Action σ Body} :
    ∀ (xs : List α) (L : List Naming),
      (∀ a ∈ xs, ∀ L, Calls p L (item a) fun body => L ++ body.names) →
        Calls p L (xs.mapM item) fun bodies => L ++ Body.names bodies.flatten
  | [], L, _ => pure (List.append_nil L)
  | x :: xs, L, h => by
      rw [List.mapM_cons]
      refine (h x List.mem_cons_self L).bind fun body => ?_
      refine (mapM xs _ fun a ha => h a (List.mem_cons_of_mem _ ha)).bind fun bodies => ?_
      exact pure (by simp)

/-- A list of what is written one by one. -/
theorem list {item : α → Action σ Body} {xs : List α}
    (h : ∀ a ∈ xs, ∀ L, Calls p L (item a) fun body => L ++ body.names) :
    Calls p L (list xs item) fun body => L ++ body.names :=
  (mapM xs L h).bind fun bodies => pure (by simp)

end Calls
end Action
end DebugWire

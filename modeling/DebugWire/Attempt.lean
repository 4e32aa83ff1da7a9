/-!
# Attempt — computations that may fail and keep their state either way

An `Attempt ε σ α` changes a state `σ` and answers an `α` or fails with an `ε`.  The state is there
after a failure too: what was done before it stays done.  `Attempt.run` performs one, and the
`run_…` lemmas say what each way of building an attempt does to the state.
-/

namespace DebugWire

/-- A computation on a state that may fail, and keeps its state either way. -/
abbrev Attempt (ε σ : Type) := ExceptT ε (StateM σ)

namespace Attempt

variable {ε ε' σ τ α β : Type}

/-- Perform the attempt. -/
def run (x : Attempt ε σ α) (s : σ) : Except ε α × σ := ExceptT.run x s

@[simp] theorem run_pure (a : α) (s : σ) : run (pure a : Attempt ε σ α) s = (.ok a, s) := rfl

@[simp] theorem run_throw (e : ε) (s : σ) : run (throw e : Attempt ε σ α) s = (.error e, s) := rfl

@[simp] theorem run_get (s : σ) : run (get : Attempt ε σ σ) s = (.ok s, s) := rfl

@[simp] theorem run_set (t s : σ) : run (set t : Attempt ε σ PUnit) s = (.ok ⟨⟩, t) := rfl

@[simp] theorem run_modify (f : σ → σ) (s : σ) :
    run (modify f : Attempt ε σ PUnit) s = (.ok ⟨⟩, f s) := rfl

/-- **Two attempts in a row:** the second starts where the first ended, unless that failed. -/
theorem run_bind (x : Attempt ε σ α) (f : α → Attempt ε σ β) (s : σ) :
    run (x >>= f) s =
      match run x s with
      | (.ok a, t) => run (f a) t
      | (.error e, t) => (.error e, t) := by
  change ExceptT.bindCont f (run x s).1 (run x s).2 = _
  rcases run x s with ⟨_ | _, _⟩ <;> rfl

theorem run_bind_of_ok {x : Attempt ε σ α} {s t : σ} {a : α} (h : run x s = (.ok a, t))
    (f : α → Attempt ε σ β) : run (x >>= f) s = run (f a) t := by
  rw [run_bind, h]

theorem run_bind_of_error {x : Attempt ε σ α} {s t : σ} {e : ε} (h : run x s = (.error e, t))
    (f : α → Attempt ε σ β) : run (x >>= f) s = (.error e, t) := by
  rw [run_bind, h]

@[simp] theorem run_map (f : α → β) (x : Attempt ε σ α) (s : σ) :
    run (f <$> x) s = ((run x s).1.map f, (run x s).2) := by
  rw [map_eq_pure_bind, run_bind]
  rcases run x s with ⟨_ | _, _⟩ <;> rfl

@[simp] theorem map_ok (f : α → β) (a : α) : (Except.ok a : Except ε α).map f = .ok (f a) := rfl

@[simp] theorem map_error (f : α → β) (e : ε) :
    (Except.error e : Except ε α).map f = .error e := rfl

@[simp] theorem mapError_ok (f : ε' → ε) (a : α) :
    (Except.ok a : Except ε' α).mapError f = .ok a := rfl

@[simp] theorem mapError_error (f : ε' → ε) (e : ε') :
    (Except.error e : Except ε' α).mapError f = .error (f e) := rfl

theorem mapError_eq_ok_iff {r : Except ε' α} {f : ε' → ε} {a : α} :
    r.mapError f = .ok a ↔ r = .ok a := by
  cases r <;> simp

/-- A step that cannot fail. -/
def ofStep (f : σ → α × σ) : Attempt ε σ α := modifyGet f

@[simp] theorem run_ofStep (f : σ → α × σ) (s : σ) :
    run (ofStep f : Attempt ε σ α) s = (.ok (f s).1, (f s).2) := rfl

/-- A result that is there already, or is not. -/
def ofExcept : Except ε α → Attempt ε σ α
  | .ok a => pure a
  | .error e => throw e

@[simp] theorem run_ofExcept (r : Except ε α) (s : σ) : run (ofExcept r) s = (r, s) := by
  cases r <;> rfl

/-- An attempt on a part of the state, its failures seen through `f`. -/
def within (part : σ → τ) (put : τ → σ → σ) (f : ε' → ε) (x : Attempt ε' τ α) :
    Attempt ε σ α := do
  let (r, t) := run x (part (← get))
  modify (put t)
  ofExcept (r.mapError f)

@[simp] theorem run_within (part : σ → τ) (put : τ → σ → σ) (f : ε' → ε) (x : Attempt ε' τ α)
    (s : σ) :
    run (within part put f x) s = ((run x (part s)).1.mapError f, put (run x (part s)).2 s) := by
  simp [within, run_bind]

end Attempt

/-- A result that was looked at was there. -/
theorem exists_of_map_eq_ok {ε α β : Type} {f : α → β} {x : Except ε α} {b : β}
    (h : f <$> x = .ok b) : ∃ a, x = .ok a ∧ f a = b := by
  cases x with
  | error e => exact absurd h nofun
  | ok a => exact ⟨a, rfl, Except.ok.inj h⟩

/-- A failure was there before. -/
theorem eq_error_of_map {ε α β : Type} {f : α → β} {x : Except ε α} {e : ε}
    (h : f <$> x = .error e) : x = .error e := by
  cases x with
  | error e' => exact congrArg Except.error (Except.error.inj h)
  | ok a => exact absurd h nofun

end DebugWire

import DebugWire.Proofs.Registry.Recycling

/-!
# Proofs/Registry/Growth — calls that take nothing away

A registration may learn something of an entity: its kind, or the tag of a type.  The entry then
still serves for all that it served for (`Entry.Serves`).  A table `Extends` another if every id
stands there for an entry that serves as well, so that ids resolve as before.  Most calls do nothing
else (`Operation.grows`), and neither does a run of them (`WellFormed.extends_run`).
-/

namespace DebugWire

/-! ## Entries -/

/-- What satisfies a look-up still does once the kind is learnt. -/
theorem EntityKind.accepts_refine {known learnt expected : EntityKind}
    (hspace : IdSpace.of known = IdSpace.of learnt) (h : expected.accepts known) :
    expected.accepts (known.refine learnt) := by
  unfold refine
  split
  · next hplain =>
    -- nothing but `plain` is satisfied by a plain object
    subst hplain
    cases expected with
    | object k =>
      cases k with
      | plain => exact (isObject_eq_of_space hspace).symm
      | _ => exact absurd h (by decide)
    | _ => exact absurd h (by decide)
  · exact h

namespace Entry

/-- Whatever `e` can be looked up as, `x` can. -/
structure Serves (e x : Entry) : Prop where
  handle : x.handle = e.handle
  kind : ∀ expected : EntityKind, expected.accepts e.kind → expected.accepts x.kind
  typeTag : ∀ tag, e.typeTag = some tag → x.typeTag = some tag

namespace Serves

variable {e x y : Entry}

@[refl] theorem refl (e : Entry) : e.Serves e := ⟨rfl, fun _ h => h, fun _ h => h⟩

theorem trans (h : e.Serves x) (h' : x.Serves y) : e.Serves y where
  handle := h'.handle.trans h.handle
  kind expected hexpected := h'.kind expected (h.kind expected hexpected)
  typeTag tag htag := h'.typeTag tag (h.typeTag tag htag)

theorem counted (e : Entry) : e.Serves e.counted := ⟨rfl, fun _ h => h, fun _ h => h⟩

theorem pinned (e : Entry) : e.Serves e.pinned := ⟨rfl, fun _ h => h, fun _ h => h⟩

/-- What is learnt of an entity takes nothing away. -/
theorem again {kind : EntityKind} (hspace : e.key.space = IdSpace.of kind)
    (tag : Option TypeTag) : e.Serves (e.again kind tag) where
  handle := rfl
  kind _ := EntityKind.accepts_refine hspace
  typeTag known hknown := by
    change e.typeTag.or tag = some known
    rw [hknown, Option.some_or]

/-- An entry that changes under a condition. -/
theorem ite {c : Prop} [Decidable c] (h : c → e.Serves x) : e.Serves (if c then x else e) := by
  split
  · exact h ‹_›
  · rfl

/-- A reference type stays one, with the tag that is known. -/
theorem type? (h : e.Serves x) {type : Handle × TypeTag} (htype : e.type? = some type) :
    x.type? = some type := by
  unfold Entry.type? at *
  split at htype
  · next hkind =>
    obtain ⟨tag, htag, rfl⟩ := Option.map_eq_some_iff.mp htype
    have hkind' := h.kind .referenceType (hkind ▸ EntityKind.accepts_self _)
    rw [if_pos (of_decide_eq_true hkind').symm, h.typeTag tag htag, h.handle, Option.map_some]
  · exact absurd htype nofun

end Serves
end Entry

/-! ## Calls -/

namespace Operation

/-- The call takes nothing away. -/
def grows : Operation → Bool
  | .dispose _ | .disposeObjects .. | .entityFreed _ | .enableCollection _ | .invalidateFrames
  | .disposeAll => false
  | _ => true

theorem grows_of_registers {op : Operation} (h : op.registers) : op.grows := by
  cases op with
  | register | registerOptional | registerType | registerTagged | toWire => rfl
  | _ => exact absurd h Bool.false_ne_true

/-- **An entry survives such a call, and serves as before.** -/
theorem serves_of_fate {op : Operation} (hop : op.grows) (e : Entry) :
    ∃ x, op.fate e = some x ∧ e.Serves x := by
  have hagain (kind : EntityKind) (handle : Handle) (tag : Option TypeTag) :
      e.Serves (if e.key = ⟨IdSpace.of kind, handle⟩ then e.again kind tag else e) :=
    .ite fun hname => .again (congrArg EntityKey.space hname) tag
  cases op with
  | register handle kind => exact ⟨_, rfl, hagain kind handle none⟩
  | registerOptional handle kind =>
    cases handle with
    | none => exact ⟨e, rfl, .refl e⟩
    | some handle => exact ⟨_, rfl, hagain kind handle none⟩
  | registerType handle facts =>
    refine ⟨_, rfl, .ite fun hname => ?_⟩
    split
    · have hspace : e.counted.key.space = IdSpace.of .referenceType :=
        congrArg EntityKey.space hname
      exact (Entry.Serves.counted e).trans (.again hspace _)
    · exact .counted e
  | registerTagged handle tag => exact ⟨_, rfl, hagain .referenceType handle (some tag)⟩
  | toWire value =>
    cases value with
    | primitive p => exact ⟨e, rfl, .refl e⟩
    | reference kind handle =>
      cases handle with
      | none => exact ⟨e, rfl, .refl e⟩
      | some handle => exact ⟨_, rfl, hagain kind handle none⟩
  | disableCollection id => exact ⟨_, rfl, .ite fun _ => .pinned e⟩
  | dispose | disposeObjects | entityFreed | enableCollection | invalidateFrames | disposeAll =>
    exact absurd hop Bool.false_ne_true
  | _ => exact ⟨e, rfl, .refl e⟩

end Operation

/-! ## Tables -/

namespace Registry

variable {r s t : Registry}

/-- Whatever an id is good for in `r`, it is good for in `s`. -/
def Extends (r s : Registry) : Prop :=
  ∀ id e, r.live? id = some e → ∃ x, s.live? id = some x ∧ e.Serves x

namespace Extends

@[refl] theorem refl (r : Registry) : Extends r r := fun _ e he => ⟨e, he, .refl e⟩

theorem trans (h : Extends r s) (h' : Extends s t) : Extends r t := by
  intro id e he
  obtain ⟨x, hx, hserves⟩ := h id e he
  obtain ⟨y, hy, hserves'⟩ := h' id x hx
  exact ⟨y, hy, hserves.trans hserves'⟩

/-- An id resolves as before. -/
theorem resolve (h : Extends r s) {id : WireId} {expected : EntityKind} {handle : Handle}
    (hr : r.resolve id expected = .ok handle) : s.resolve id expected = .ok handle := by
  obtain ⟨e, he, haccepts, rfl⟩ := exists_of_resolve hr
  obtain ⟨x, hx, hserves⟩ := h id e he
  rw [← hserves.handle]
  exact resolve_of_live? hx (hserves.kind expected haccepts)

theorem resolveOptional (h : Extends r s) {id : WireId} {expected : EntityKind}
    {handle : Option Handle} (hr : r.resolveOptional id expected = .ok handle) :
    s.resolveOptional id expected = .ok handle := by
  unfold Registry.resolveOptional at *
  by_cases hnull : id = .null
  · rwa [if_pos hnull] at hr ⊢
  · rw [if_neg hnull] at hr ⊢
    obtain ⟨x, hx, rfl⟩ := exists_of_map_eq_ok hr
    rw [h.resolve hx]
    rfl

/-- A value is read as before. -/
theorem fromWire (h : Extends r s) {w : WireValue} {v : TargetValue} (hr : r.fromWire w = .ok v) :
    s.fromWire w = .ok v := by
  cases w with
  | primitive p => exact hr
  | object k id =>
    obtain ⟨x, hx, rfl⟩ := exists_of_map_eq_ok hr
    rw [Registry.fromWire, h.resolveOptional hx]
    rfl

/-- A reference type is known by its tag, as before. -/
theorem resolveType (h : Extends r s) {id : WireId} {type : Handle × TypeTag}
    (hr : r.resolveType id = .ok type) : s.resolveType id = .ok type := by
  unfold Registry.resolveType at hr
  split at hr
  · next known hknown =>
    obtain rfl : known = type := Except.ok.inj hr
    obtain ⟨e, he, htype⟩ := Option.bind_eq_some_iff.mp hknown
    obtain ⟨x, hx, hserves⟩ := h id e he
    rw [Registry.resolveType, hx, Option.bind_some, hserves.type? htype]
  · exact absurd hr nofun

end Extends

/-- **Calls that take nothing away lead to a table that extends the first.** -/
theorem WellFormed.extends_run (h : r.WellFormed) {ops : List Operation}
    (hops : ∀ op ∈ ops, op.grows) (hroom : (r.run ops).HasRoom) : Extends r (r.run ops) := by
  intro id e he
  refine h.live_run (P := e.Serves) (fun op hop x hserves => ?_) hroom he (.refl e)
  obtain ⟨y, hy, hserves'⟩ := Operation.serves_of_fate (hops op hop) x
  exact ⟨y, hy, hserves.trans hserves'⟩

end Registry
end DebugWire

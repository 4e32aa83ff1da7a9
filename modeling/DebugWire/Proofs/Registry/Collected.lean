import DebugWire.Proofs.Registry.Lifecycle
import DebugWire.Proofs.Registry.Sweeping

/-!
# Proofs/Registry/Collected — whether an object is gone

Of an object that is gone and swept nothing is left, and of anything else that was released only
that its id was no object's.  This is enough: what `isCollected` answers to an id depends on what
the id was made for (`MadeFor`), and for an object's id on whether it resolves, but not on how the
entry ended (`discerns_of_run`).
-/

namespace DebugWire

variable {r : Registry} {id : WireId} {kind : EntityKind}

/-- The call issues the id, for an entity of the kind. -/
structure Operation.Makes (op : Operation) (r : Registry) (id : WireId) (kind : EntityKind) :
    Prop where
  subject : ∃ handle, op.subject? = some (handle, kind)
  answer : (op.perform r).1.id? = some id
  issued : (op.perform r).2.issued = r.issued + 1

namespace Registry

/-! ## One call -/

/-- What a call makes an id for is what comes in. -/
theorem WellFormed.makes_iff (h : r.WellFormed) {op : Operation}
    (hroom : (op.perform r).2.HasRoom) :
    op.Makes r id kind ↔ ∃ e, op.newcomer? r = some e ∧ e.id = id ∧ e.kind = kind := by
  constructor
  · rintro ⟨⟨handle, hsubject⟩, hanswer, hissued⟩
    exact ⟨_, h.newcomer?_of_issued hsubject hanswer hissued hroom, rfl, rfl⟩
  · rintro ⟨e, hnew, rfl, rfl⟩
    obtain ⟨handle, kind, hsubject, rfl⟩ := exists_subject_of_newcomer? hnew
    obtain ⟨hholder, -⟩ := fresh_of_newcomer? hsubject hnew
    have hcount := h.issued_perform op
    rw [hnew] at hcount
    obtain ⟨hanswer, -⟩ | ⟨hrefused, -⟩ := h.id?_of_subject hsubject hroom
    · refine ⟨⟨handle, hsubject⟩, ?_, hcount⟩
      rw [hanswer, idFor, hholder]
      rfl
    · rw [Operation.newcomer?, hsubject, hrefused] at hnew
      cases hnew

/-- Where the counter moves on by one, the next id is issued. -/
theorem issued_succ_iff {s : Registry} (hroom : r.HasRoom) (hfirst : s.firstId = r.firstId)
    (hissued : s.issued = r.issued + 1) : s.Issued id ↔ r.Issued id ∨ id = ⟨r.nextId⟩ := by
  have hnext : id = ⟨r.nextId⟩ ↔ id.raw.toNat = r.firstId.toNat + r.issued := by
    rw [← toNat_nextId hroom, UInt64.toNat_inj]
    exact ⟨congrArg WireId.raw, congrArg WireId.mk⟩
  rw [hnext]
  unfold Issued
  rw [hfirst, hissued]
  omega

/-- An id is issued by the call that makes it. -/
theorem WellFormed.issued_perform_iff (h : r.WellFormed) {op : Operation}
    (hroom : (op.perform r).2.HasRoom) :
    (op.perform r).2.Issued id ↔ r.Issued id ∨ ∃ kind, op.Makes r id kind := by
  have hlater := later_perform (r := r) op
  have hcount := h.issued_perform op
  have hmakes : (∃ kind, op.Makes r id kind) ↔ ∃ e, op.newcomer? r = some e ∧ e.id = id := by
    simp only [h.makes_iff hroom]
    rw [exists_comm]
    simp
  rw [hmakes]
  cases hnew : op.newcomer? r with
  | none =>
    rw [hnew] at hcount
    unfold Issued
    rw [hlater.firstId, hcount]
    simp
  | some e =>
    rw [hnew] at hcount
    rw [issued_succ_iff (hroom.of_later hlater) hlater.firstId hcount, ← id_of_newcomer? hnew]
    simp [eq_comm]

/-- An id is that of no object from the call on that makes it for something else. -/
theorem WellFormed.isOther_perform_iff (h : r.WellFormed) {op : Operation}
    (hroom : (op.perform r).2.HasRoom) :
    (op.perform r).2.isOther id ↔ r.isOther id ∨ ∃ kind, ¬ kind.isObject ∧ op.Makes r id kind := by
  rw [(h.evolves_perform op hroom).isOther, Bool.or_eq_true, Option.any_eq_true]
  refine or_congr_right ⟨?_, ?_⟩
  · rintro ⟨e, hnew, he⟩
    rw [Bool.and_eq_true, decide_eq_true_iff, Bool.not_eq_true'] at he
    exact ⟨e.kind, Bool.eq_false_iff.mp he.2, (h.makes_iff hroom).mpr ⟨e, hnew, he.1, rfl⟩⟩
  · rintro ⟨kind, hkind, hmakes⟩
    obtain ⟨e, hnew, rfl, rfl⟩ := (h.makes_iff hroom).mp hmakes
    exact ⟨e, hnew, by simp [hkind]⟩

/-! ## Along a run -/

/-- One of the calls issues the id, for an entity of the kind. -/
def MadeFor (r : Registry) (ops : List Operation) (id : WireId) (kind : EntityKind) : Prop :=
  ∃ (n : Nat) (op : Operation), ops[n]? = some op ∧ op.Makes (r.run (ops.take n)) id kind

theorem madeFor_nil : ¬ r.MadeFor [] id kind := by
  rintro ⟨n, op, hop, -⟩
  exact absurd hop nofun

theorem madeFor_cons {op : Operation} {ops : List Operation} :
    r.MadeFor (op :: ops) id kind ↔
      op.Makes r id kind ∨ (op.perform r).2.MadeFor ops id kind := by
  constructor
  · rintro ⟨n, o, ho, hmakes⟩
    cases n with
    | zero => exact .inl (Option.some.inj ho ▸ hmakes)
    | succ n => exact .inr ⟨n, o, ho, hmakes⟩
  · rintro (hmakes | ⟨n, o, ho, hmakes⟩)
    · exact ⟨0, op, rfl, hmakes⟩
    · exact ⟨n + 1, o, ho, hmakes⟩

/-- What holds as soon as an id is made for something, and only then. -/
theorem WellFormed.run_iff_madeFor {P : Registry → Prop} {p : EntityKind → Prop}
    (hstep : ∀ {r : Registry} {op : Operation}, r.WellFormed → (op.perform r).2.HasRoom →
      (P (op.perform r).2 ↔ P r ∨ ∃ kind, p kind ∧ op.Makes r id kind))
    (h : r.WellFormed) {ops : List Operation} (hroom : (r.run ops).HasRoom) :
    P (r.run ops) ↔ P r ∨ ∃ kind, p kind ∧ r.MadeFor ops id kind := by
  induction ops generalizing r with
  | nil => simp [madeFor_nil]
  | cons op ops ih =>
    have hroom' : (op.perform r).2.HasRoom := hroom.of_later (later_run ops _)
    rw [run_cons, ih (h.evolves_perform op hroom').wellFormed hroom, hstep h hroom', or_assoc,
      ← exists_or]
    simp only [madeFor_cons, and_or_left]

/-- The id is null, was never issued, or was issued for something that is no object. -/
def NoObject (r : Registry) (ops : List Operation) (id : WireId) : Prop :=
  id = .null ∨ (∀ kind, ¬ r.MadeFor ops id kind) ∨
    ∃ kind, ¬ kind.isObject ∧ r.MadeFor ops id kind

/-- That an id is no object's can be told from the table. -/
theorem noObject_iff (firstId : UInt64) (threshold : Nat) (id : WireId) {ops : List Operation}
    (hroom : ((new firstId threshold).run ops).HasRoom) :
    (new firstId threshold).NoObject ops id ↔
      id = .null ∨ ¬ ((new firstId threshold).run ops).Issued id ∨
        ((new firstId threshold).run ops).isOther id := by
  have hnew := WellFormed.new firstId threshold
  have hissued := hnew.run_iff_madeFor (P := (Issued · id)) (p := fun _ => True)
    (fun h hroom => by simpa using h.issued_perform_iff hroom) hroom
  have hother := hnew.run_iff_madeFor (P := (isOther · id)) (p := (¬ ·.isObject))
    (fun h hroom => h.isOther_perform_iff hroom) hroom
  have hunissued : ¬ (new firstId threshold).Issued id := by simp [Issued, new]
  have hobject : ¬ (new firstId threshold).isOther id := by simp [isOther, tracked?, new]
  rw [NoObject, hissued, hother]
  simp [hunissued, hobject]

/-! ## Whether an object is gone -/

/-- What lives is an object, unless its id is that of something else. -/
theorem resolve_plain_iff (hobject : ¬ r.isOther id) :
    (∃ handle, r.resolve id (.object .plain) = .ok handle) ↔ (r.live? id).isSome := by
  rw [Option.isSome_iff_exists]
  constructor
  · rintro ⟨handle, hresolve⟩
    obtain ⟨e, he, -⟩ := exists_of_resolve hresolve
    exact ⟨e, he⟩
  · rintro ⟨e, he⟩
    rw [isOther, (live?_eq_some_iff.mp he).1] at hobject
    have hkind : e.kind.isObject := by simp_all
    exact ⟨e.handle, resolve_of_live? he hkind⟩

/-- An id that was not issued is outside the range of those that were. -/
theorem not_issued_iff (hroom : r.HasRoom) :
    ¬ r.Issued id ↔ id.raw < r.firstId ∨ r.nextId ≤ id.raw := by
  rw [UInt64.lt_iff_toNat_lt, UInt64.le_iff_toNat_le, toNat_nextId hroom]
  unfold Issued
  omega

/-- What the table answers to whoever asks whether an object is gone. -/
structure Discerns (firstId : UInt64) (threshold : Nat) (ops : List Operation) (id : WireId) :
    Prop where
  /-- The question is refused of an id that is no object's. -/
  refused : (∃ e, ((new firstId threshold).run ops).isCollected id = .error e ∧
    e.replyCode = some .invalidObject) ↔ (new firstId threshold).NoObject ops id
  /-- Of any other it is answered: an object is gone once its id does not resolve. -/
  answered : ¬ (new firstId threshold).NoObject ops id →
    ∃ gone, ((new firstId threshold).run ops).isCollected id = .ok gone ∧
      (gone = true ↔ ¬ ∃ handle,
        ((new firstId threshold).run ops).resolve id (.object .plain) = .ok handle)

/-- **An object that is gone can be told from what never was one**, however it went and however long
ago. -/
theorem discerns_of_run (firstId : UInt64) (threshold : Nat) (ops : List Operation) (id : WireId)
    (hroom : ((new firstId threshold).run ops).HasRoom) : Discerns firstId threshold ops id := by
  have hno := noObject_iff firstId threshold id hroom
  rw [not_issued_iff hroom, or_assoc] at hno
  by_cases hcase : id = .null ∨ id.raw < ((new firstId threshold).run ops).firstId ∨
    ((new firstId threshold).run ops).nextId ≤ id.raw ∨
      ((new firstId threshold).run ops).isOther id
  · have hanswer := (isCollected_eq id).trans (if_pos hcase)
    exact ⟨iff_of_true ⟨_, hanswer, rfl⟩ (hno.mpr hcase), fun hnot => absurd (hno.mpr hcase) hnot⟩
  · have hanswer := (isCollected_eq id).trans (if_neg hcase)
    have hnot : ¬ (new firstId threshold).NoObject ops id := mt hno.mp hcase
    have hobject : ¬ ((new firstId threshold).run ops).isOther id :=
      fun hother => hcase (.inr (.inr (.inr hother)))
    refine ⟨iff_of_false ?_ hnot, fun _ => ⟨_, hanswer, ?_⟩⟩
    · rintro ⟨e, he, -⟩
      exact absurd (hanswer.symm.trans he) nofun
    · rw [resolve_plain_iff hobject, Option.not_isSome_iff_eq_none, Option.isNone_iff_eq_none]

/-- A frame, a type and an object are released, and then everything.  The object is gone; of the
frame it is still known that it was none. -/
theorem discerns_released :
    ((new 1 16).run [.register ⟨10⟩ .frame, .registerTagged ⟨11⟩ .classType,
      .register ⟨11⟩ (.object .plain), .invalidateFrames, .dispose ⟨2⟩, .dispose ⟨3⟩,
      .disposeAll]).isCollected ⟨3⟩ = .ok true ∧
    (new 1 16).NoObject [.register ⟨10⟩ .frame, .registerTagged ⟨11⟩ .classType,
      .register ⟨11⟩ (.object .plain), .invalidateFrames, .dispose ⟨2⟩, .dispose ⟨3⟩,
      .disposeAll] ⟨1⟩ :=
  ⟨rfl, (discerns_of_run 1 16 _ ⟨1⟩ (by decide)).refused.mp ⟨_, rfl, rfl⟩⟩

end Registry
end DebugWire

import DebugWire.Proofs.Registry.Run

/-!
# Proofs/Registry/Lifecycle — when an id ends

What has happened to an id since it was issued can be read off the calls and their answers alone:
`Standing` counts references and pins, and notes a pinned entity that ended and the end of the id
itself.  The entry of a living id counts the same (`Entry.Has`), step by step, so an id resolves
exactly until its standing has ended (`resolves_iff_standing`).
-/

namespace DebugWire

/-! ## What the calls say -/

/-- What the calls since its issue say of an id. -/
structure Standing where
  references : Nat
  pins : Nat
  /-- The entity ended while there were pins. -/
  freed : Bool
  /-- The id ended. -/
  ended : Bool
deriving DecidableEq, Repr

namespace Standing

/-- An id that has just been issued. -/
def issued : Standing := ⟨1, 0, false, false⟩

/-- The id ends. -/
def stop (s : Standing) : Standing := { s with ended := true }

/-- What a call and its answer say of the id of an entity. -/
def next (id : WireId) (handle : Handle) (kind : EntityKind) (s : Standing) :
    Operation × Outcome → Standing
  | (.dispose i, _) => if i = id then s.stop else s
  | (.disposeAll, _) => s.stop
  | (.invalidateFrames, _) => if kind = .frame then s.stop else s
  | (.disposeObjects i count, _) =>
      if i = id ∧ kind.isObject then
        let s := { s with references := s.references - count }
        if s.references = 0 ∧ s.pins = 0 then s.stop else s
      else s
  | (.entityFreed h, _) =>
      if h = handle then (if s.pins = 0 then s.stop else { s with freed := true }) else s
  | (.disableCollection i, _) =>
      if i = id ∧ kind.isObject then { s with pins := countUp s.pins } else s
  | (.enableCollection i, _) =>
      if i = id ∧ kind.isObject then
        let s := { s with pins := s.pins - 1 }
        if s.pins = 0 ∧ s.freed then s.stop else s
      else s
  | (_, answer) =>
      if answer.id? = some id then { s with references := countUp s.references } else s

/-- What a history says of an id. -/
def after (id : WireId) (handle : Handle) (kind : EntityKind)
    (history : List (Operation × Outcome)) : Standing :=
  history.foldl (next id handle kind) issued

end Standing

namespace Registry

/-- The id stands for the entity, as an entity of the kind that is known of it. -/
def Resolves (r : Registry) (id : WireId) (handle : Handle) : Prop :=
  ∃ kind, r.kindOf? id = some kind ∧ r.resolve id kind = .ok handle

end Registry

/-! ## What the entry counts -/

/-- An entry is that of an entity, and as its standing says.  References of an entity that is no
object matter to nothing. -/
structure Entry.Has (handle : Handle) (kind : EntityKind) (s : Standing) (e : Entry) : Prop where
  key : e.key = ⟨IdSpace.of kind, handle⟩
  references : kind.isObject → e.references = s.references
  pins : e.pins = s.pins
  freed : e.freed = s.freed

/-- What an entry counts, as the standing of its id. -/
def Entry.standing (e : Entry) : Standing := ⟨e.references, e.pins, e.freed, false⟩

namespace Entry.Has

variable {handle : Handle} {kind : EntityKind} {s : Standing} {e : Entry}

theorem isObject (h : e.Has handle kind s) : e.kind.isObject = kind.isObject :=
  EntityKind.isObject_eq_of_space (congrArg EntityKey.space h.key)

theorem frame_iff (h : e.Has handle kind s) : e.kind = .frame ↔ kind = .frame := by
  have hspace : IdSpace.of e.kind = IdSpace.of kind := congrArg EntityKey.space h.key
  revert hspace
  cases e.kind <;> cases kind <;> simp [IdSpace.of]

theorem handle_eq (h : e.Has handle kind s) : e.handle = handle := congrArg EntityKey.handle h.key

/-- Types are not objects. -/
theorem not_isObject (h : e.Has handle kind s) {h' : Handle}
    (hkey : e.key = ⟨.referenceTypes, h'⟩) :
    ¬ kind.isObject := by
  rw [← h.isObject, Entry.kind_of_space (congrArg EntityKey.space hkey)]
  exact Bool.false_ne_true

/-- An entry that is handed out again under a condition, and counts that. -/
theorem handed (h : e.Has handle kind s) {x : Entry} (hkey : x.key = e.key)
    (hpins : x.pins = e.pins) (hfreed : x.freed = e.freed) {c : Prop} [Decidable c]
    (hrefs : kind.isObject → x.references = if c then countUp e.references else e.references) :
    x.Has handle kind (if c then { s with references := countUp s.references } else s) where
  key := hkey.trans h.key
  references hobject := by
    rw [hrefs hobject, h.references hobject]
    split <;> rfl
  pins := by rw [hpins, h.pins]; split <;> rfl
  freed := by rw [hfreed, h.freed]; split <;> rfl

end Entry.Has

namespace Standing

variable {id : WireId} {handle : Handle} {kind : EntityKind} {s : Standing}

/-- A standing is right about an id that stands for an entry, or for none. -/
def Fits (handle : Handle) (kind : EntityKind) (s : Standing) : Option Entry → Prop
  | none => s.ended = true
  | some e => s.ended = false ∧ e.Has handle kind s

/-- No id comes back. -/
theorem ended_next (h : s.ended = true) (call : Operation × Outcome) :
    (s.next id handle kind call).ended = true := by
  obtain ⟨op, answer⟩ := call
  cases op <;> grind [next, stop]

/-- An answer hands out the id of an entry when the entry is what was registered, and, but for a
refusal, only then. -/
structure Answers (e : Entry) (op : Operation) (answer : Outcome) : Prop where
  of_subject : ∀ h k, op.subject? = some (h, k) → e.key = ⟨IdSpace.of k, h⟩ →
    op.refused = false → answer.id? = some e.id
  subject : answer.id? = some e.id → ∃ h k, op.subject? = some (h, k) ∧ e.key = ⟨IdSpace.of k, h⟩

/-- A registration of some entity that is not a type. -/
theorem fits_register {e : Entry} (halive : s.ended = false) (h : e.Has handle kind s)
    {op : Operation} {answer : Outcome} (hanswer : Answers e op answer) {h' : Handle}
    {k : EntityKind} (hsubject : op.subject? = some (h', k)) (hasked : op.refused = false) :
    Fits handle kind
      (if answer.id? = some e.id then { s with references := countUp s.references } else s)
      (some (if e.key = ⟨IdSpace.of k, h'⟩ then e.again k none else e)) := by
  refine ⟨by split <;> exact halive, ?_⟩
  by_cases hname : e.key = ⟨IdSpace.of k, h'⟩
  · have hid := hanswer.of_subject h' k hsubject hname hasked
    rw [if_pos hname]
    exact h.handed (Entry.key_again (congrArg EntityKey.space hname) none) rfl rfl
      fun _ => by rw [if_pos hid]; rfl
  · have hid : answer.id? ≠ some e.id := by
      intro hid
      obtain ⟨h'', k', hsubject', hname'⟩ := hanswer.subject hid
      rw [hsubject, Option.some.injEq, Prod.mk.injEq] at hsubject'
      obtain ⟨rfl, rfl⟩ := hsubject'
      exact hname hname'
    rw [if_neg hname]
    exact h.handed rfl rfl rfl fun _ => by rw [if_neg hid]

/-- A registration of a type.  What it makes of the entry of a type is no concern here. -/
theorem fits_registerType {e x : Entry} (halive : s.ended = false) (h : e.Has handle kind s)
    {op : Operation} {answer : Outcome} (hanswer : Answers e op answer) {h' : Handle}
    (hsubject : op.subject? = some (h', .referenceType))
    (hx : e.key = ⟨.referenceTypes, h'⟩ → x.key = e.key ∧ x.pins = e.pins ∧ x.freed = e.freed) :
    Fits handle kind
      (if answer.id? = some e.id then { s with references := countUp s.references } else s)
      (some (if e.key = ⟨.referenceTypes, h'⟩ then x else e)) := by
  refine ⟨by split <;> exact halive, ?_⟩
  by_cases hname : e.key = ⟨.referenceTypes, h'⟩
  · obtain ⟨hkey, hpins, hfreed⟩ := hx hname
    rw [if_pos hname]
    exact h.handed hkey hpins hfreed fun hobject => absurd hobject (h.not_isObject hname)
  · have hid : answer.id? ≠ some e.id := by
      intro hid
      obtain ⟨h'', k', hsubject', hname'⟩ := hanswer.subject hid
      rw [hsubject, Option.some.injEq, Prod.mk.injEq] at hsubject'
      obtain ⟨rfl, rfl⟩ := hsubject'
      exact hname hname'
    rw [if_neg hname]
    exact h.handed rfl rfl rfl fun _ => by rw [if_neg hid]

/-- Whatever registers nothing hands the id out to nobody. -/
theorem fits_unanswered {e : Entry} (halive : s.ended = false) (h : e.Has handle kind s)
    {op : Operation} {answer : Outcome} (hanswer : Answers e op answer)
    (hsubject : op.subject? = none) :
    Fits handle kind
      (if answer.id? = some e.id then { s with references := countUp s.references } else s)
      (some e) := by
  have hid : answer.id? ≠ some e.id := by
    intro hid
    obtain ⟨h', k, hsubject', -⟩ := hanswer.subject hid
    exact absurd (hsubject.symm.trans hsubject') nofun
  rw [if_neg hid]
  exact ⟨halive, h⟩

/-- References are taken back. -/
theorem fits_disposeObjects {e : Entry} (halive : s.ended = false) (h : e.Has handle kind s)
    (i : WireId) (count : Nat) (answer : Outcome) :
    Fits handle kind (s.next e.id handle kind (.disposeObjects i count, answer))
      ((Operation.disposeObjects i count).fate e) := by
  simp only [next, Operation.fate, eq_comm (a := i), h.isObject]
  split
  · next hobject =>
    simp only [Entry.returned, h.references hobject.2, h.pins]
    split
    · rfl
    · exact ⟨halive, h.key, fun _ => rfl, rfl, h.freed⟩
  · exact ⟨halive, h⟩

/-- The entity ends. -/
theorem fits_entityFreed {e : Entry} (halive : s.ended = false) (h : e.Has handle kind s)
    (h' : Handle) (answer : Outcome) :
    Fits handle kind (s.next e.id handle kind (.entityFreed h', answer))
      ((Operation.entityFreed h').fate e) := by
  simp only [next, Operation.fate, h.handle_eq, eq_comm (a := h')]
  split
  · rw [Entry.bereaved, h.pins]
    by_cases hpins : s.pins = 0
    · rw [if_pos hpins, if_neg (by omega)]
      rfl
    · rw [if_neg hpins, if_pos (by omega)]
      exact ⟨halive, h.key, h.references, rfl, rfl⟩
  · exact ⟨halive, h⟩

/-- A pin is removed. -/
theorem fits_enableCollection {e : Entry} (halive : s.ended = false) (h : e.Has handle kind s)
    (i : WireId) (answer : Outcome) :
    Fits handle kind (s.next e.id handle kind (.enableCollection i, answer))
      ((Operation.enableCollection i).fate e) := by
  simp only [next, Operation.fate, eq_comm (a := i), h.isObject]
  split
  · simp only [Entry.unpinned, h.pins, h.freed]
    split
    · rfl
    · exact ⟨halive, h.key, h.references, rfl, rfl⟩
  · exact ⟨halive, h⟩

/-- A pin is set. -/
theorem fits_disableCollection {e : Entry} (halive : s.ended = false) (h : e.Has handle kind s)
    (i : WireId) (answer : Outcome) :
    Fits handle kind (s.next e.id handle kind (.disableCollection i, answer))
      ((Operation.disableCollection i).fate e) := by
  simp only [next, Operation.fate, eq_comm (a := i), h.isObject]
  split
  · exact ⟨halive, h.key, h.references, congrArg countUp h.pins, h.freed⟩
  · exact ⟨halive, h⟩

/-- **The entry of an id and its standing move together.** -/
theorem fits_next {e : Entry} (halive : s.ended = false) (h : e.Has handle kind s)
    {op : Operation} {answer : Outcome} (hanswer : Answers e op answer) :
    Fits handle kind (s.next e.id handle kind (op, answer)) (op.fate e) := by
  cases op with
  | register h' k => exact fits_register halive h hanswer rfl rfl
  | registerOptional h' k =>
    cases h' with
    | none => exact fits_unanswered halive h hanswer rfl
    | some h' => exact fits_register halive h hanswer rfl rfl
  | registerType h' facts =>
    refine fits_registerType halive h hanswer rfl fun hname => ?_
    have hspace : e.counted.key.space = IdSpace.of .referenceType := congrArg EntityKey.space hname
    split
    · exact ⟨Entry.key_again hspace _, rfl, rfl⟩
    · exact ⟨rfl, rfl, rfl⟩
  | registerTagged h' tag =>
    refine fits_registerType halive h hanswer rfl fun hname => ?_
    exact ⟨Entry.key_again (congrArg EntityKey.space hname) (some tag), rfl, rfl⟩
  | toWire value =>
    cases value with
    | primitive p => exact fits_unanswered halive h hanswer rfl
    | reference k h' =>
      cases h' with
      | none => exact fits_unanswered halive h hanswer rfl
      | some h' => exact fits_register halive h hanswer rfl rfl
  | dispose i =>
    simp only [next, Operation.fate, eq_comm (a := i)]
    split
    · rfl
    · exact ⟨halive, h⟩
  | disposeObjects i count => exact fits_disposeObjects halive h i count answer
  | entityFreed h' => exact fits_entityFreed halive h h' answer
  | disableCollection i => exact fits_disableCollection halive h i answer
  | enableCollection i => exact fits_enableCollection halive h i answer
  | invalidateFrames =>
    simp only [next, Operation.fate, h.frame_iff]
    split
    · rfl
    · exact ⟨halive, h⟩
  | disposeAll => rfl
  | _ => exact fits_unanswered halive h hanswer rfl

end Standing

/-! ## Along a run -/

namespace Registry

variable {r : Registry}

/-- The id that a name answers to is the one of a living entry exactly if the name is its own. -/
theorem WellFormed.idFor_eq_iff (h : r.WellFormed) (hroom : r.HasRoom) {id : WireId} {e : Entry}
    (he : r.live? id = some e) (name : EntityKey) : r.idFor name = e.id ↔ e.key = name := by
  have hlive : r.live? e.id = some e := by rw [h.id_of_live? he, he]
  constructor
  · intro hid
    cases hholder : r.holder? name with
    | none =>
      have hnext : (⟨r.nextId⟩ : WireId) = e.id := by rw [idFor, hholder] at hid; exact hid
      have hissued := h.issued_of_tracked? (live?_eq_some_iff.mp hlive).1
      exact absurd (hnext ▸ hissued) (not_issued_nextId hroom)
    | some x =>
      obtain ⟨hx, hname⟩ := h.holder?_eq_some_iff.mp hholder
      have hxe : x.id = e.id := by rw [idFor, hholder] at hid; exact hid
      rw [hxe, hlive] at hx
      rw [Option.some.inj hx]
      exact hname
  · intro hname
    rw [idFor, h.holder?_eq_some_iff.mpr ⟨hlive, hname⟩]
    rfl

/-- The answer to a call is right about every entry that lives. -/
theorem WellFormed.answers (h : r.WellFormed) (op : Operation) (hroom : (op.perform r).2.HasRoom)
    {id : WireId} {e : Entry} (he : r.live? id = some e) :
    Standing.Answers e op (op.perform r).1 := by
  have hidFor := h.idFor_eq_iff (hroom.of_later (later_perform op)) he
  constructor
  · intro h' k hsubject hname hasked
    obtain ⟨hid, -⟩ | ⟨hrefused, -⟩ := h.id?_of_subject hsubject hroom
    · rw [hid, (hidFor _).mpr hname]
    · exact absurd (hasked.symm.trans hrefused) nofun
  · intro hid
    cases hsubject : op.subject? with
    | none =>
      have hnull : e.id ≠ .null :=
        h.id_of_live? he ▸ h.id_ne_null (live?_eq_some_iff.mp he).1
      obtain hnone | hsome := id?_of_no_subject (r := r) hsubject
      · exact absurd (hid.symm.trans hnone) nofun
      · exact absurd (Option.some.inj (hid.symm.trans hsome)) hnull
    | some subject =>
      obtain ⟨h', k⟩ := subject
      refine ⟨h', k, rfl, ?_⟩
      obtain ⟨hid', -⟩ | ⟨-, hnone⟩ := h.id?_of_subject hsubject hroom
      · exact (hidFor _).mp (Option.some.inj (hid'.symm.trans hid))
      · exact absurd (hid.symm.trans hnone) nofun

/-- What holds of an id from its issue on. -/
structure Stands (id : WireId) (handle : Handle) (kind : EntityKind) (s : Standing)
    (r : Registry) : Prop where
  wellFormed : r.WellFormed
  issued : r.Issued id
  fits : s.Fits handle kind (r.live? id)
  /-- Whatever else gets the name later has a greater id. -/
  least : ∀ i e, r.live? i = some e → e.key = ⟨IdSpace.of kind, handle⟩ → id.raw ≤ i.raw

variable {id : WireId} {handle : Handle} {kind : EntityKind} {s : Standing}

theorem toNat_lt_nextId (hroom : r.HasRoom) (hid : r.Issued id) : id.raw < r.nextId := by
  rw [UInt64.lt_iff_toNat_lt, toNat_nextId hroom]
  exact hid.2

/-- A living id stands, as its entry says. -/
theorem WellFormed.stands_of_live? (h : r.WellFormed) {e : Entry} (he : r.live? id = some e)
    (hkey : e.key = ⟨IdSpace.of kind, handle⟩) : Stands id handle kind e.standing r where
  wellFormed := h
  issued := h.issued_of_tracked? (live?_eq_some_iff.mp he).1
  fits := by
    rw [he]
    exact ⟨rfl, hkey, fun _ => rfl, rfl, rfl⟩
  least i x hx hname := h.id_eq_of_key_eq hx he (hname.trans hkey.symm) ▸ UInt64.le_refl _

/-- **Every call keeps it.** -/
theorem Stands.perform (h : Stands id handle kind s r) (op : Operation)
    (hroom : (op.perform r).2.HasRoom) :
    Stands id handle kind (s.next id handle kind (op, (op.perform r).1)) (op.perform r).2 := by
  have hstep := h.wellFormed.evolves_perform op hroom
  have hbefore := hroom.of_later hstep.later
  have hnew : (op.newcomer? r).filter (·.id = id) = none := by
    rw [Option.filter_eq_none_iff]
    intro e he hsame
    have hid : (⟨r.nextId⟩ : WireId) = id := (id_of_newcomer? he).symm.trans (by simpa using hsame)
    exact not_issued_nextId hbefore (hid ▸ h.issued)
  refine ⟨hstep.wellFormed, h.issued.of_later hstep.later, ?_, fun i x hx hname => ?_⟩
  · rw [hstep.live?, hnew, Option.none_or]
    have hfits := h.fits
    cases he : r.live? id with
    | none =>
      rw [he] at hfits
      exact Standing.ended_next hfits _
    | some e =>
      rw [he] at hfits
      obtain rfl := h.wellFormed.id_of_live? he
      exact Standing.fits_next hfits.1 hfits.2 (h.wellFormed.answers op hroom he)
  · rw [hstep.live?, Option.or_eq_some_iff, Option.filter_eq_some_iff] at hx
    obtain ⟨hx, hi⟩ | ⟨-, hx⟩ := hx
    · rw [← of_decide_eq_true hi, id_of_newcomer? hx]
      exact UInt64.le_of_lt (toNat_lt_nextId hbefore h.issued)
    · obtain ⟨e, he, hfate⟩ := Option.bind_eq_some_iff.mp hx
      exact h.least i e he ((Operation.becomes_of_fate hfate).key ▸ hname)

theorem Stands.run (h : Stands id handle kind s r) (ops : List Operation)
    (hroom : (r.run ops).HasRoom) :
    Stands id handle kind ((r.history ops).foldl (Standing.next id handle kind) s)
      (r.run ops) := by
  induction ops generalizing r s with
  | nil => exact h
  | cons op ops ih => exact ih (h.perform op (hroom.of_later (later_run ops _))) hroom

/-- It holds when an id is issued. -/
theorem WellFormed.stands_issued (h : r.WellFormed) {op : Operation}
    (hsubject : op.subject? = some (handle, kind)) (hid : (op.perform r).1.id? = some id)
    (hissued : (op.perform r).2.issued = r.issued + 1) (hroom : (op.perform r).2.HasRoom) :
    Stands id handle kind .issued (op.perform r).2 := by
  have hstep := h.evolves_perform op hroom
  have hnew := h.newcomer?_of_issued hsubject hid hissued hroom
  obtain ⟨hholder, -⟩ := fresh_of_newcomer? hsubject hnew
  obtain rfl : id = ⟨r.nextId⟩ := id_of_newcomer? hnew
  have hlive := hstep.live?
  rw [hnew] at hlive
  refine ⟨hstep.wellFormed, issued_nextId (hroom.of_later hstep.later) hstep.firstId ?_, ?_,
    fun i x hx hname => ?_⟩
  · rw [hissued]
    exact Nat.lt_succ_self _
  · rw [hlive, Option.filter_some, if_pos (by simp [Entry.fresh]), Option.some_or]
    exact ⟨rfl, rfl, fun _ => rfl, rfl, rfl⟩
  · rw [hlive, Option.or_eq_some_iff, Option.filter_eq_some_iff] at hx
    obtain ⟨hx, hi⟩ | ⟨-, hx⟩ := hx
    · obtain rfl := Option.some.inj hx
      exact of_decide_eq_true hi ▸ UInt64.le_refl _
    · obtain ⟨y, hy, hfate⟩ := Option.bind_eq_some_iff.mp hx
      exact absurd ((Operation.becomes_of_fate hfate).key ▸ hname)
        (h.holder?_eq_none_iff.mp hholder i y hy)

/-- The living entry of an id that resolves. -/
theorem exists_of_resolves {i : WireId} (h : r.Resolves i handle) :
    ∃ e, r.live? i = some e ∧ e.handle = handle := by
  obtain ⟨k, -, hresolve⟩ := h
  obtain ⟨e, he, -, hhandle⟩ := exists_of_resolve hresolve
  exact ⟨e, he, hhandle⟩

theorem resolves_of_live? {i : WireId} {e : Entry} (he : r.live? i = some e) :
    r.Resolves i e.handle :=
  ⟨e.kind, by rw [kindOf?, he]; rfl, resolve_of_live? he e.kind.accepts_self⟩

/-- **An id resolves until its standing has ended.** -/
theorem Stands.resolves_iff (h : Stands id handle kind s r) :
    r.Resolves id handle ↔ s.ended = false := by
  have hfits := h.fits
  cases he : r.live? id with
  | none =>
    rw [he] at hfits
    refine iff_of_false (fun hresolves => ?_) fun hends => absurd (hends.symm.trans hfits) nofun
    obtain ⟨e, hlive, -⟩ := exists_of_resolves hresolves
    exact absurd (he.symm.trans hlive) nofun
  | some e =>
    rw [he] at hfits
    exact iff_of_true (hfits.2.handle_eq ▸ resolves_of_live? he) hfits.1

/-- Some id of the space resolves to the entity. -/
def Named (r : Registry) (handle : Handle) (space : IdSpace) : Prop :=
  ∃ i k, r.kindOf? i = some k ∧ IdSpace.of k = space ∧ r.Resolves i handle

theorem WellFormed.named_iff (h : r.WellFormed) {space : IdSpace} :
    r.Named handle space ↔ r.holder? ⟨space, handle⟩ ≠ none := by
  constructor
  · rintro ⟨i, k, hkind, hspace, hresolves⟩
    obtain ⟨e, he, hhandle⟩ := exists_of_resolves hresolves
    rw [kindOf?, he] at hkind
    obtain rfl : e.kind = k := Option.some.inj hkind
    rw [← h.id_of_live? he] at he
    have hkey : e.key = ⟨space, handle⟩ := by rw [Entry.key, hspace, hhandle]
    simp [h.holder?_eq_some_iff.mpr ⟨he, hkey⟩]
  · intro hholder
    obtain ⟨e, he⟩ := Option.ne_none_iff_exists'.mp hholder
    obtain ⟨hlive, hkey⟩ := h.holder?_eq_some_iff.mp he
    refine ⟨e.id, e.kind, by rw [kindOf?, hlive]; rfl, congrArg EntityKey.space hkey, ?_⟩
    have hhandle : e.handle = handle := congrArg EntityKey.handle hkey
    exact hhandle ▸ resolves_of_live? hlive

/-- What the registration of an entity does that `id` was issued for. -/
structure Registers (r : Registry) (id : WireId) (handle : Handle) (kind : EntityKind)
    (op : Operation) : Prop where
  /-- It answers with an id, unless the target is asked for a tag and refuses. -/
  answers : op.refused = false → (op.perform r).1.id? ≠ none
  /-- While the id resolves, that is the answer, and nothing is issued. -/
  same : ∀ i, (op.perform r).1.id? = some i → r.Resolves id handle →
    i = id ∧ (op.perform r).2.issued = r.issued
  /-- Otherwise the answer is a later id. -/
  newer : ∀ i, (op.perform r).1.id? = some i → ¬ r.Resolves id handle → id.raw < i.raw
  /-- It is issued now, if no other id of the entity's resolves by now. -/
  next : ∀ i, (op.perform r).1.id? = some i → ¬ r.Named handle (IdSpace.of kind) →
    i = ⟨r.nextId⟩ ∧ (op.perform r).2.issued = r.issued + 1

theorem Stands.registers (h : Stands id handle kind s r) {op : Operation} {k : EntityKind}
    (hsubject : op.subject? = some (handle, k)) (hspace : IdSpace.of k = IdSpace.of kind)
    (hroom : (op.perform r).2.HasRoom) : r.Registers id handle kind op := by
  have hstep := h.wellFormed.evolves_perform op hroom
  have hbefore := hroom.of_later hstep.later
  have hanswer := h.wellFormed.id?_of_subject hsubject hroom
  rw [hspace] at hanswer
  have hid : ∀ i, (op.perform r).1.id? = some i → i = r.idFor ⟨IdSpace.of kind, handle⟩ ∧
      (op.refused = true → r.holder? ⟨IdSpace.of kind, handle⟩ ≠ none) := by
    intro i hi
    obtain ⟨hsome, hholder⟩ | ⟨-, hnone⟩ := hanswer
    · exact ⟨Option.some.inj (hi.symm.trans hsome), hholder⟩
    · rw [hi] at hnone
      simp at hnone
  refine ⟨fun hasked hnone => ?_, fun i hi hresolves => ?_, fun i hi hends => ?_,
    fun i hi hunnamed => ?_⟩
  · obtain ⟨hsome, -⟩ | ⟨hrefused, -⟩ := hanswer
    · rw [hsome] at hnone
      simp at hnone
    · rw [hasked] at hrefused
      simp at hrefused
  · obtain ⟨e, he, -⟩ := exists_of_resolves hresolves
    have hfits := h.fits
    rw [he] at hfits
    have hlive : r.live? e.id = some e := by rw [h.wellFormed.id_of_live? he, he]
    have hholder := h.wellFormed.holder?_eq_some_iff.mpr ⟨hlive, hfits.2.key⟩
    refine ⟨?_, ?_⟩
    · rw [(hid i hi).1, idFor, hholder]
      exact h.wellFormed.id_of_live? he
    · rw [hstep.issued, newcomer?_eq_none hsubject (by simp [hspace, hholder])]
      rfl
  · rw [(hid i hi).1, idFor]
    cases hholder : r.holder? ⟨IdSpace.of kind, handle⟩ with
    | none => exact toNat_lt_nextId hbefore h.issued
    | some e =>
      obtain ⟨hlive, hkey⟩ := h.wellFormed.holder?_eq_some_iff.mp hholder
      refine UInt64.lt_of_le_of_ne (h.least e.id e hlive hkey) fun hraw => hends ?_
      have hsame : id = e.id := congrArg WireId.mk hraw
      have hhandle : e.handle = handle := congrArg EntityKey.handle hkey
      exact hsame ▸ hhandle ▸ resolves_of_live? hlive
  · have hholder : r.holder? ⟨IdSpace.of kind, handle⟩ = none :=
      Decidable.byContradiction fun hholder => hunnamed (h.wellFormed.named_iff.mpr hholder)
    have hasked : op.refused = false := by
      rw [← Bool.not_eq_true]
      exact fun hrefused => (hid i hi).2 hrefused hholder
    refine ⟨by rw [(hid i hi).1, idFor, hholder]; rfl, ?_⟩
    rw [hstep.issued, newcomer?_of_subject hsubject hasked, newcomer?, hspace, hholder]
    rfl

/-- **The life of an id.**  It is told by the calls since its issue: the id stands for its entity
until its standing has ended, and what the registration of that entity answers depends on nothing
else. -/
theorem resolves_iff_standing (firstId : UInt64) (threshold : Nat) (before after : List Operation)
    (op : Operation) (hsubject : op.subject? = some (handle, kind))
    (hid : (op.perform ((new firstId threshold).run before)).1.id? = some id)
    (hissued : (op.perform ((new firstId threshold).run before)).2.issued =
      ((new firstId threshold).run before).issued + 1)
    (hroom : ((new firstId threshold).run (before ++ op :: after)).HasRoom) :
    (((new firstId threshold).run (before ++ op :: after)).Resolves id handle ↔
      (Standing.after id handle kind
        (((new firstId threshold).run (before ++ [op])).history after)).ended = false) ∧
    ∀ (reg : Operation) (k : EntityKind), reg.subject? = some (handle, k) →
      IdSpace.of k = IdSpace.of kind →
      (reg.perform ((new firstId threshold).run (before ++ op :: after))).2.HasRoom →
      ((new firstId threshold).run (before ++ op :: after)).Registers id handle kind reg := by
  rw [run_append, run_cons] at hroom ⊢
  rw [run_append, run_cons, run_nil]
  have hroom' := hroom.of_later (later_run after _)
  have hbefore := (WellFormed.new firstId threshold).run before
    (hroom'.of_later (later_perform op))
  have hstands := (hbefore.stands_issued hsubject hid hissued hroom').run after hroom
  exact ⟨hstands.resolves_iff, fun reg k hreg hspace hregroom =>
    hstands.registers hreg hspace hregroom⟩

/-- An object in a slot that a frame left: it is pinned, its entity ends, with the pin its id. -/
theorem resolves_until_unpinned :
    ((new 1 1).run [.register ⟨9⟩ .frame, .invalidateFrames, .register ⟨10⟩ (.object .plain),
      .disableCollection ⟨2⟩, .entityFreed ⟨10⟩]).Resolves ⟨2⟩ ⟨10⟩ ∧
    ¬ ((new 1 1).run [.register ⟨9⟩ .frame, .invalidateFrames, .register ⟨10⟩ (.object .plain),
      .disableCollection ⟨2⟩, .entityFreed ⟨10⟩, .enableCollection ⟨2⟩]).Resolves ⟨2⟩ ⟨10⟩ := by
  refine ⟨?_, fun hresolves => ?_⟩
  · exact (resolves_iff_standing 1 1 [.register ⟨9⟩ .frame, .invalidateFrames]
      [.disableCollection ⟨2⟩, .entityFreed ⟨10⟩] (.register ⟨10⟩ (.object .plain)) rfl rfl rfl
      (by decide)).1.mpr rfl
  · have hends := (resolves_iff_standing 1 1 [.register ⟨9⟩ .frame, .invalidateFrames]
      [.disableCollection ⟨2⟩, .entityFreed ⟨10⟩, .enableCollection ⟨2⟩]
      (.register ⟨10⟩ (.object .plain)) rfl rfl rfl (by decide)).1.mp hresolves
    exact absurd hends (by decide)

end Registry

end DebugWire

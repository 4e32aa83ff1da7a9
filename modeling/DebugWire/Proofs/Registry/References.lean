import DebugWire.Proofs.Registry.Handing
import DebugWire.Proofs.Registry.Lifecycle
import Mathlib.Logic.Function.Iterate

/-!
# Proofs/Registry/References — what the references of an object count

Whoever follows the calls of a table can keep an account of an id: a call that hands it out counts
one up, and one that takes references back counts them down (`Operation.account`).  The entry of an
object that lives counts the same (`WellFormed.references_run`).  Calls that take nothing back only
count up, once for each time that they hand the id out (`account_of_gives`).
-/

namespace DebugWire

/-! ## Counting up -/

theorem min_le_iterate_countUp (n k : Nat) : min (n + k) counterMax ≤ countUp^[k] n := by
  induction k generalizing n with
  | zero => exact Nat.min_le_left _ _
  | succ k ih =>
    rw [Function.iterate_succ_apply]
    refine Nat.le_trans ?_ (ih (countUp n))
    unfold countUp
    omega

/-- Counting up reaches at least as far from a greater number, in more steps. -/
theorem add_le_iterate_countUp {n m j k : Nat} (hn : n ≤ m) (hj : j ≤ k)
    (hmax : n + j ≤ counterMax) : n + j ≤ countUp^[k] m :=
  Nat.le_trans (Nat.le_min.mpr ⟨Nat.add_le_add hn hj, hmax⟩) (min_le_iterate_countUp m k)

theorem iterate_countUp {n k : Nat} (h : n + k ≤ counterMax) : countUp^[k] n = n + k := by
  induction k generalizing n with
  | zero => rfl
  | succ k ih =>
    have hone : countUp n = n + 1 := Nat.min_eq_left (by omega)
    rw [Function.iterate_succ_apply, hone, ih (by omega)]
    omega

/-! ## The account of an id -/

/-- How often an id is named. -/
def WireId.timesIn (id : WireId) (L : List Naming) : Nat := L.countP fun n => n.2 = id

/-- How many references to an id are taken back. -/
def WireId.total (id : WireId) : List (WireId × Nat) → Nat
  | [] => 0
  | item :: items => (if item.1 = id then item.2 else 0) + total id items

namespace WireId

variable {id : WireId}

theorem timesIn_append (L L' : List Naming) :
    id.timesIn (L ++ L') = id.timesIn L + id.timesIn L' := List.countP_append

theorem timesIn_eq_zero {L : List Naming} (h : ∀ n ∈ L, n.2 ≠ id) : id.timesIn L = 0 :=
  List.countP_eq_zero.mpr fun n hn => by simpa using h n hn

theorem total_cons (item : WireId × Nat) (items : List (WireId × Nat)) :
    id.total (item :: items) = (if item.1 = id then item.2 else 0) + id.total items := rfl

end WireId

namespace Operation

/-- What the account of an id says after a call. -/
def account (id : WireId) (n : Nat) : Operation × Outcome → Nat
  | (.disposeObjects i count, _) => if i = id then n - count else n
  | (op, answer) => countUp^[id.timesIn (op.naming? answer).toList] n

/-- The call takes no references back. -/
def gives : Operation → Bool
  | .disposeObjects .. => false
  | _ => true

theorem gives_of_registers {op : Operation} (h : op.registers) : op.gives := by
  cases op <;> first | rfl | exact absurd h Bool.false_ne_true

theorem account_of_gives {op : Operation} (h : op.gives) (id : WireId) (n : Nat)
    (answer : Outcome) :
    account id n (op, answer) = countUp^[id.timesIn (op.naming? answer).toList] n := by
  cases op <;> first | rfl | exact absurd h Bool.false_ne_true

end Operation

/-- What an answer hands out counts one up, and what hands out nothing counts nothing. -/
theorem iterate_naming {id : WireId} {op : Operation} {answer : Outcome}
    (hid : answer.id? = some id → op.subject? ≠ none) (n : Nat) :
    countUp^[id.timesIn (op.naming? answer).toList] n =
      if answer.id? = some id then countUp n else n := by
  unfold Operation.naming?
  cases hanswer : answer.id? with
  | none => cases op.subject? <;> rfl
  | some i =>
    by_cases hi : i = id
    · subst hi
      obtain ⟨subject, hsubject⟩ := Option.ne_none_iff_exists'.mp (hid hanswer)
      simp [hsubject, WireId.timesIn]
    · cases op.subject? <;> simp [WireId.timesIn, hi]

/-- The standing of an object goes by the same account. -/
theorem Standing.references_next {id : WireId} {handle : Handle} {kind : EntityKind}
    (s : Standing) {op : Operation} {answer : Outcome} (hobject : kind.isObject)
    (hid : answer.id? = some id → op.subject? ≠ none) :
    (s.next id handle kind (op, answer)).references =
      Operation.account id s.references (op, answer) := by
  by_cases hgives : op.gives
  · rw [Operation.account_of_gives hgives, iterate_naming hid]
    cases op with
    | disposeObjects => exact absurd hgives Bool.false_ne_true
    | register | registerOptional | registerType | registerTagged | toWire =>
      simp only [next]
      split <;> rfl
    | _ =>
      have hnone : answer.id? ≠ some id := fun hsome => hid hsome rfl
      rw [if_neg hnone]
      grind [next, stop]
  · cases op with
    | disposeObjects i count =>
      simp only [next, Operation.account, hobject, and_true]
      split
      · split <;> rfl
      · rfl
    | _ => exact absurd rfl hgives

namespace Registry

variable {r s : Registry} {id : WireId} {x : Entry}

/-- The references to an id, none if it does not live. -/
def referencesTo (r : Registry) (id : WireId) : Nat := ((r.live? id).map (·.references)).getD 0

theorem referencesTo_of_live? {e : Entry} (he : r.live? id = some e) :
    r.referencesTo id = e.references := by
  rw [referencesTo, he]
  rfl

theorem referencesTo_of_dead (h : r.live? id = none) : r.referencesTo id = 0 := by
  rw [referencesTo, h]
  rfl

/-! ## One call -/

/-- What comes in is handed out, once. -/
theorem WellFormed.id?_of_newcomer? (h : r.WellFormed) {op : Operation}
    (hnew : op.newcomer? r = some x) (hroom : (op.perform r).2.HasRoom) :
    (op.perform r).1.id? = some x.id ∧ op.subject? ≠ none ∧ x.references = 1 := by
  obtain ⟨handle, kind, hsubject, rfl⟩ := exists_subject_of_newcomer? hnew
  obtain ⟨hholder, -⟩ := fresh_of_newcomer? hsubject hnew
  refine ⟨?_, by simp [hsubject], rfl⟩
  obtain ⟨hid, -⟩ | ⟨hrefused, -⟩ := h.id?_of_subject hsubject hroom
  · rw [hid, idFor, hholder]
    rfl
  · rw [Operation.newcomer?, hsubject, hrefused] at hnew
    cases hnew

/-- **A call does to the references of an object what its account says.** -/
theorem WellFormed.references_perform (h : r.WellFormed) {op : Operation}
    (hroom : (op.perform r).2.HasRoom) (hx : (op.perform r).2.live? id = some x)
    (hobject : x.kind.isObject) :
    x.references = Operation.account id (r.referencesTo id) (op, (op.perform r).1) := by
  cases he : r.live? id with
  | some e =>
    have hfits := ((h.stands_of_live? he rfl).perform op hroom).fits
    rw [hx] at hfits
    have hobject' : e.kind.isObject := hfits.2.isObject ▸ hobject
    rw [hfits.2.references hobject', referencesTo_of_live? he]
    refine Standing.references_next _ hobject' fun hid hnone => ?_
    obtain ⟨h', k, hsubject, -⟩ :=
      (h.answers op hroom he).subject (by rw [h.id_of_live? he, hid])
    exact absurd (hnone.symm.trans hsubject) nofun
  | none =>
    rw [(h.evolves_perform op hroom).live?, he, Option.bind_none, Option.or_none,
      Option.filter_eq_some_iff] at hx
    obtain ⟨hnew, hsame⟩ := hx
    obtain rfl : x.id = id := of_decide_eq_true hsame
    obtain ⟨hid, hsubject, hone⟩ := h.id?_of_newcomer? hnew hroom
    have hregisters := op.registers_of_subject (Option.ne_none_iff_exists'.mp hsubject).choose_spec
    rw [referencesTo_of_dead he, Operation.account_of_gives (op.gives_of_registers hregisters),
      iterate_naming (fun _ => hsubject), if_pos hid, hone]
    rfl

/-- An id that was not issued has no references, and its account stays empty. -/
theorem WellFormed.account_of_not_issued (h : r.WellFormed) (op : Operation)
    (hroom : (op.perform r).2.HasRoom) (hid : ¬ (op.perform r).2.Issued id) :
    Operation.account id (r.referencesTo id) (op, (op.perform r).1) = 0 := by
  have hdead : r.live? id = none := by
    cases he : r.live? id with
    | none => rfl
    | some e => exact absurd ((h.assigned_of_live? he).issued.of_later (later_perform op)) hid
  rw [referencesTo_of_dead hdead]
  by_cases hgives : op.gives
  · rw [Operation.account_of_gives hgives]
    have hnames : id.timesIn (op.naming? (op.perform r).1).toList = 0 := by
      refine WireId.timesIn_eq_zero fun n hn hname => hid ?_
      rw [← handed_singleton] at hn
      exact hname ▸ (h.names_handed [op] hroom n hn).issued
    rw [hnames]
    rfl
  · cases op with
    | disposeObjects i count =>
      simp only [Operation.account, Nat.zero_sub]
      split <;> rfl
    | _ => exact absurd rfl hgives

/-! ## Along a run -/

/-- An object that lives after a step lived before it, or its id was not issued. -/
theorem Follows.cases_live? (hs : Follows r s) (h : r.WellFormed) (hroom : s.HasRoom)
    (hx : s.live? id = some x) :
    (∃ e, r.live? id = some e ∧ e.kind.isObject = x.kind.isObject) ∨
      ¬ r.Issued id ∧ r.live? id = none := by
  by_cases hissued : r.Issued id
  · obtain ⟨e, he, hkey⟩ := hs.keeps h hroom id x hx hissued
    exact Or.inl ⟨e, he, Entry.isObject_eq_of_key_eq hkey⟩
  · refine Or.inr ⟨hissued, ?_⟩
    cases he : r.live? id with
    | none => rfl
    | some e => exact absurd (h.assigned_of_live? he).issued hissued

/-- **The entry of an object that lives counts what the calls say.** -/
theorem WellFormed.references_run (h : r.WellFormed) {ops : List Operation}
    (hroom : (r.run ops).HasRoom) (hx : (r.run ops).live? id = some x)
    (hobject : x.kind.isObject) :
    x.references = (r.history ops).foldl (Operation.account id) (r.referencesTo id) := by
  induction ops generalizing r with
  | nil => exact (referencesTo_of_live? hx).symm
  | cons op ops ih =>
    have hroom' : (op.perform r).2.HasRoom := hroom.of_later (later_run ops _)
    have hwf := (follows_perform op).wellFormed h hroom'
    have hafter : (op.perform r).2.referencesTo id =
        Operation.account id (r.referencesTo id) (op, (op.perform r).1) := by
      obtain ⟨e, he, hsame⟩ | ⟨hissued, hdead⟩ :=
        (follows_run ops _).cases_live? hwf hroom hx
      · rw [referencesTo_of_live? he]
        exact h.references_perform hroom' he (hsame ▸ hobject)
      · rw [referencesTo_of_dead hdead]
        exact (h.account_of_not_issued op hroom' hissued).symm
    rw [ih hwf hroom hx, hafter]
    rfl

/-- Calls that take nothing back count up what they hand out. -/
theorem account_of_gives {ops : List Operation} (hgives : ∀ op ∈ ops, op.gives) (n : Nat) :
    (r.history ops).foldl (Operation.account id) n = countUp^[id.timesIn (r.handed ops)] n := by
  induction ops generalizing r n with
  | nil => rfl
  | cons op ops ih =>
    obtain ⟨hgive, hrest⟩ := List.forall_mem_cons.mp hgives
    rw [handed_cons, WireId.timesIn_append, Nat.add_comm, Function.iterate_add_apply,
      ← Operation.account_of_gives hgive id n (op.perform r).1]
    exact ih hrest _

/-- **What is handed out counts up.** -/
theorem Handing.references {p : Operation → Bool} {L : List Naming} (hs : Handing p [] r s L)
    (hgives : ∀ op, p op → op.gives) (h : r.WellFormed) (hroom : s.HasRoom)
    (hx : s.live? id = some x) (hobject : x.kind.isObject) :
    x.references = countUp^[id.timesIn L] (r.referencesTo id) := by
  obtain ⟨ops, hops, rfl, rfl⟩ := hs
  rw [h.references_run hroom hx hobject, account_of_gives fun op hop => hgives op (hops op hop)]
  rfl

/-- Registrations of anything but objects hand out no id of an object. -/
theorem Handing.timesIn_eq_zero {L : List Naming} (hs : Handing Operation.registersOther [] r s L)
    (h : r.WellFormed) (hroom : s.HasRoom) (hx : s.live? id = some x) (hobject : x.kind.isObject) :
    id.timesIn L = 0 := by
  refine WireId.timesIn_eq_zero fun n hn hname => ?_
  obtain ⟨e, he, -, hother⟩ := hs.live_of_others h hroom hn
  rw [hname, hx] at he
  exact hother (Option.some.inj he ▸ hobject)

/-- Take references back, one item after the other. -/
def takeBack (r : Registry) (items : List (WireId × Nat)) : Registry :=
  items.foldl (fun r item => r.disposeObjects item.1 item.2) r

theorem takeBack_eq_run (r : Registry) (items : List (WireId × Nat)) :
    r.takeBack items = r.run (items.map fun item => .disposeObjects item.1 item.2) := by
  induction items generalizing r with
  | nil => rfl
  | cons item items ih => exact ih _

theorem account_takeBack (r : Registry) (items : List (WireId × Nat)) (n : Nat) :
    (r.history (items.map fun item => .disposeObjects item.1 item.2)).foldl
      (Operation.account id) n = n - id.total items := by
  induction items generalizing r n with
  | nil => rfl
  | cons item items ih =>
    rw [WireId.total_cons, ← Nat.sub_sub]
    refine (ih _ _).trans (congrArg (· - id.total items) ?_)
    simp only [Operation.account]
    split <;> rfl

/-- **An object that some references are taken back of** has so many less, if it lives. -/
theorem WellFormed.references_takeBack (h : r.WellFormed) {items : List (WireId × Nat)}
    (hroom : (r.takeBack items).HasRoom) (hx : (r.takeBack items).live? id = some x)
    (hobject : x.kind.isObject) : x.references = r.referencesTo id - id.total items := by
  rw [takeBack_eq_run] at hroom hx
  rw [h.references_run hroom hx hobject, account_takeBack]

/-- An object without pins is released with its last reference. -/
theorem WellFormed.live?_disposeObjects_eq_none_iff (h : r.WellFormed) {e : Entry}
    (he : r.live? id = some e) (hobject : e.kind.isObject) (hpins : e.pins = 0) (count : Nat) :
    (r.disposeObjects id count).live? id = none ↔ e.references ≤ count := by
  obtain rfl := h.id_of_live? he
  rw [(h.evolves_disposeObjects e.id count).live?, he]
  simp [Entry.returned, hobject, hpins, Nat.sub_eq_zero_iff_le]

end Registry
end DebugWire

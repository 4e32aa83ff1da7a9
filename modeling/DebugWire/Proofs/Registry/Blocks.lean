import DebugWire.Proofs.Registry.Retired
import Mathlib.Data.List.Sort
import Mathlib.Order.Interval.Set.LinearOrder

/-!
# Proofs/Registry/Blocks — the runs are the maximal blocks of the set

A set of numbers is kept in one form only, in whatever order they came (`canonical_of_inserts`).

* `Canonical.insert` — an insertion keeps the runs ascending, with a gap between neighbours.
* `Canonical.mem_runs_iff` — so the runs are the maximal blocks of the set, and two canonical forms
  of one set are equal (`Canonical.ext`).
* `Canonical.searched` — an insertion and a look-up read the same list at two boundaries: one skips
  the runs that end before the number, the other also a run that ends at it.
-/

namespace DebugWire

namespace Run

variable {q r : Run} {S : Set Nat}

/-! ## Blocks of a set -/

/-- The numbers in the run. -/
def span (r : Run) : Set Nat := Set.Ico r.start r.stop

/-- A run within the set that no other run within it covers. -/
structure IsBlock (S : Set Nat) (r : Run) : Prop where
  proper : r.Proper
  within : r.span ⊆ S
  maximal : ∀ q : Run, q.span ⊆ S → r.span ⊆ q.span → q = r

/-- Some number lies between the two. -/
def Before (q r : Run) : Prop := q.stop < r.start

theorem contains_iff {y : Nat} : r.contains y = true ↔ y ∈ r.span := by
  simp [contains, span]

/-- **A run within the set is a block of it exactly if the set goes on at neither end.** -/
theorem isBlock_iff : r.IsBlock S ↔
    r.Proper ∧ r.span ⊆ S ∧ r.stop ∉ S ∧ ∀ y, y + 1 = r.start → y ∉ S := by
  constructor
  · rintro ⟨hproper, hwithin, hmaximal⟩
    have hlt : r.start < r.stop := hproper
    refine ⟨hproper, hwithin, fun hstop => ?_, fun y hy hmem => ?_⟩
    · have hlonger : (⟨r.start, r.stop + 1⟩ : Run).span ⊆ S := fun z hz => by
        obtain rfl | hne := eq_or_ne z r.stop
        · exact hstop
        · exact hwithin ⟨hz.1, Nat.lt_of_le_of_ne (Nat.le_of_lt_succ hz.2) hne⟩
      have heq := hmaximal _ hlonger (Set.Ico_subset_Ico_right (Nat.le_succ _))
      exact Nat.succ_ne_self _ (congrArg stop heq)
    · have hlonger : (⟨y, r.stop⟩ : Run).span ⊆ S := fun z hz => by
        obtain rfl | hne := eq_or_ne z y
        · exact hmem
        · exact hwithin ⟨hy ▸ Nat.lt_of_le_of_ne hz.1 hne.symm, hz.2⟩
      have heq := hmaximal _ hlonger (Set.Ico_subset_Ico_left (hy ▸ Nat.le_succ y))
      exact Nat.succ_ne_self y (hy.trans (congrArg start heq).symm)
  · rintro ⟨hproper, hwithin, hstop, hstart⟩
    have hlt : r.start < r.stop := hproper
    refine ⟨hproper, hwithin, fun q hq hcover => ?_⟩
    obtain ⟨hle, hge⟩ := (Set.Ico_subset_Ico_iff hlt).mp hcover
    have hends : q.stop = r.stop := by
      by_contra hne
      exact hstop (hq ⟨hle.trans hlt.le, Nat.lt_of_le_of_ne hge (Ne.symm hne)⟩)
    have hbegins : q.start = r.start := by
      by_contra hne
      refine hstart (r.start - 1) (by omega) (hq ⟨?_, ?_⟩) <;> omega
    exact congrArg₂ Run.mk hbegins hends

end Run

namespace Retired

variable {s t : Retired} {q r : Run} {x : Nat}

/-! ## The canonical form -/

/-- No run is empty, and the runs ascend with gaps between them. -/
structure Canonical (s : Retired) : Prop where
  proper : s.Proper
  apart : s.runs.Pairwise Run.Before

theorem contains_iff : s.contains x = true ↔ ∃ r ∈ s.runs, x ∈ r.span := by
  simp [contains, Run.contains_iff]

theorem canonical_empty : empty.Canonical := ⟨proper_empty, .nil⟩

/-- Runs that begin behind `b` still do when a number behind `b` is inserted. -/
theorem lt_start_of_mem_insertRun {runs : List Run} (h : ∀ q ∈ runs, q.Proper) {b : Nat}
    (hx : b < x) (hb : ∀ q ∈ runs, b < q.start) (hq : q ∈ insertRun x runs) : b < q.start := by
  have hin : (insertRun x runs).any (·.contains q.start) = true :=
    List.any_eq_true.mpr
      ⟨q, hq, Run.contains_iff.mpr ⟨le_rfl, proper_insertRun x runs h q hq⟩⟩
  rw [any_contains_insertRun x q.start runs h, Bool.or_eq_true, beq_iff_eq, List.any_eq_true] at hin
  obtain rfl | ⟨p, hp, hstart⟩ := hin
  · exact hx
  · exact (hb p hp).trans_le (Run.contains_iff.mp hstart).1

/-- What is in front of the first run is in front of all. -/
theorem pairwise_cons_cons {rest : List Run} (hbefore : q.Before r) (hr : r.Proper)
    (h : (r :: rest).Pairwise Run.Before) : (q :: r :: rest).Pairwise Run.Before :=
  have hrest := (List.pairwise_cons.mp h).1
  List.pairwise_cons.mpr ⟨List.forall_mem_cons.mpr
    ⟨hbefore, fun p hp => (Nat.lt_trans hbefore hr).trans (hrest p hp)⟩, h⟩

/-- Joining moves the end of a run only as far as the end of the next one. -/
theorem pairwise_extend {rest : List Run} (hstop : r.stop = x) (hproper : ∀ q ∈ rest, q.Proper)
    (h : (r :: rest).Pairwise Run.Before) : (extend x r rest).Pairwise Run.Before := by
  obtain ⟨hr, hrest⟩ := List.pairwise_cons.mp h
  unfold extend
  split
  · exact List.pairwise_singleton _ _
  · next next rest =>
    obtain ⟨hnext, hrest'⟩ := List.pairwise_cons.mp hrest
    split
    · exact List.pairwise_cons.mpr ⟨hnext, hrest'⟩
    · next hgap =>
      have hlt : x + 1 < next.start := by
        have : r.stop < next.start := hr next List.mem_cons_self
        omega
      exact pairwise_cons_cons hlt (hproper next List.mem_cons_self) hrest

theorem pairwise_insertRun (x : Nat) : ∀ runs : List Run, (∀ q ∈ runs, q.Proper) →
    runs.Pairwise Run.Before → (insertRun x runs).Pairwise Run.Before
  | [], _, _ => List.pairwise_singleton _ _
  | r :: rest, hproper, h => by
      have hrest' := fun q hq => hproper q (List.mem_cons_of_mem r hq)
      obtain ⟨hr, hrest⟩ := List.pairwise_cons.mp h
      rw [insertRun]
      split
      · next hlt =>
        exact List.pairwise_cons.mpr ⟨fun q hq => lt_start_of_mem_insertRun hrest' hlt hr hq,
          pairwise_insertRun x rest hrest' hrest⟩
      split
      · exact h
      split
      · next hstop => exact pairwise_extend hstop hrest' h
      split
      · exact List.pairwise_cons.mpr ⟨hr, hrest⟩
      · next hlt hin hstop hstart =>
        have hgap : x + 1 < r.start := by
          rw [Run.contains_iff, Run.span, Set.mem_Ico] at hin
          omega
        exact pairwise_cons_cons hgap (hproper r List.mem_cons_self) h

/-- **An insertion keeps the form.** -/
theorem Canonical.insert (h : s.Canonical) (x : Nat) : (s.insert x).Canonical :=
  ⟨h.proper.insert x, pairwise_insertRun x s.runs h.proper h.apart⟩

/-! ## One form for each set -/

/-- Two runs are never neighbours, whichever comes first. -/
theorem Canonical.apart_of_ne (h : s.Canonical) (hq : q ∈ s.runs) (hr : r ∈ s.runs) (hne : q ≠ r) :
    q.Before r ∨ r.Before q :=
  List.Pairwise.forall_of_forall_of_flip (R := fun q r => q ≠ r → q.Before r ∨ r.Before q)
    (fun _ _ hne => absurd rfl hne) (h.apart.imp fun hbefore _ => .inl hbefore)
    (h.apart.imp fun hbefore _ => .inr hbefore) hq hr hne

/-- A number of the set next to a run is in the run, as there is a gap to every other one. -/
theorem Canonical.mem_span_of_next (h : s.Canonical) (hr : r ∈ s.runs) (hle : r.start ≤ x + 1)
    (hge : x ≤ r.stop) (hx : s.contains x = true) : x ∈ r.span := by
  obtain ⟨q, hq, hmem⟩ := contains_iff.mp hx
  by_cases hne : q = r
  · exact hne ▸ hmem
  · obtain ⟨hstart, hstop⟩ := hmem
    obtain hbefore | hbefore := h.apart_of_ne hq hr hne <;> rw [Run.Before] at hbefore <;> omega

/-- A run cannot be made longer on either side. -/
theorem Canonical.isBlock (h : s.Canonical) (hr : r ∈ s.runs) :
    r.IsBlock {x | s.contains x = true} := by
  have hlt : r.start < r.stop := h.proper r hr
  refine Run.isBlock_iff.mpr ⟨hlt, fun y hy => contains_iff.mpr ⟨r, hr, hy⟩, fun hstop => ?_,
    fun y hy hmem => ?_⟩
  · exact lt_irrefl _ (h.mem_span_of_next hr (by omega) le_rfl hstop).2
  · exact absurd (h.mem_span_of_next hr hy.ge (by omega) hmem).1 (by omega)

/-- **The runs are the maximal blocks of the set.** -/
theorem Canonical.mem_runs_iff (h : s.Canonical) :
    r ∈ s.runs ↔ r.IsBlock {x | s.contains x = true} := by
  refine ⟨h.isBlock, fun hr => ?_⟩
  obtain ⟨q, hq, hmem⟩ := contains_iff.mp (hr.within ⟨le_rfl, hr.proper⟩)
  -- the run that `r` begins in is a block as well, so it is no shorter
  obtain ⟨-, -, hstop, -⟩ := Run.isBlock_iff.mp (h.isBlock hq)
  have hends : r.stop ≤ q.stop := by
    by_contra hlt
    exact hstop (hr.within ⟨hmem.2.le, Nat.lt_of_not_le hlt⟩)
  have heq : q = r := hr.maximal q (h.isBlock hq).within (Set.Ico_subset_Ico hmem.1 hends)
  exact heq ▸ hq

theorem Canonical.ascend (h : s.Canonical) :
    s.runs.Pairwise fun q r => q.start < r.start ∧ q.stop < r.stop :=
  h.apart.imp_of_mem fun hq hr hbefore =>
    ⟨(h.proper _ hq).trans hbefore, hbefore.trans (h.proper _ hr)⟩

/-- **Two canonical forms of one set are equal.** -/
theorem Canonical.ext (hs : s.Canonical) (ht : t.Canonical)
    (h : ∀ x, s.contains x = true ↔ t.contains x = true) : s = t := by
  have hstarts : ∀ {u : Retired}, u.Canonical →
      u.runs.Pairwise (InvImage (· < ·) Run.start) := fun hu => hu.ascend.imp And.left
  have hset : {x | s.contains x = true} = {x | t.contains x = true} := Set.ext h
  have hruns : s.runs = t.runs := (hstarts hs).eq_of_mem_iff (hstarts ht) fun r => by
    rw [hs.mem_runs_iff, hset, ht.mem_runs_iff]
  exact congrArg Retired.mk hruns

/-! ## Two searches -/

/-- The first `k` runs pass a test and the others do not. -/
structure Boundary (p : Run → Prop) (runs : List Run) (k : Nat) : Prop where
  le_length : k ≤ runs.length
  front : ∀ r ∈ runs.take k, p r
  back : ∀ r ∈ runs.drop k, ¬ p r

/-- A property that only stops holding splits a list in two. -/
theorem exists_boundary {p : Run → Prop} : ∀ {runs : List Run},
    runs.Pairwise (fun q r => p r → p q) → ∃ k, Boundary p runs k
  | [], _ => ⟨0, le_rfl, nofun, nofun⟩
  | r :: rest, h => by
      obtain ⟨hr, hrest⟩ := List.pairwise_cons.mp h
      by_cases hp : p r
      · obtain ⟨k, hk⟩ := exists_boundary hrest
        exact ⟨k + 1, Nat.succ_le_succ hk.le_length, List.forall_mem_cons.mpr ⟨hp, hk.front⟩,
          hk.back⟩
      · exact ⟨0, Nat.zero_le _, nofun,
          List.forall_mem_cons.mpr ⟨hp, fun q hq hpq => hp (hr q hq hpq)⟩⟩

/-- Insert `x` into runs none of which ends before it. -/
def place (x : Nat) : List Run → List Run
  | [] => [⟨x, x + 1⟩]
  | r :: rest =>
      if r.contains x then r :: rest
      else if r.stop = x then extend x r rest
      else if r.start = x + 1 then ⟨x, r.stop⟩ :: rest
      else ⟨x, x + 1⟩ :: r :: rest

theorem insertRun_append {back : List Run} : ∀ {front : List Run}, (∀ r ∈ front, r.stop < x) →
    insertRun x (front ++ back) = front ++ insertRun x back
  | [], _ => rfl
  | r :: rest, h => by
      obtain ⟨hr, hrest⟩ := List.forall_mem_cons.mp h
      rw [List.cons_append, insertRun, if_pos hr, insertRun_append hrest, List.cons_append]

theorem insertRun_eq_place {runs : List Run} (h : ∀ r ∈ runs, ¬ r.stop < x) :
    insertRun x runs = place x runs := by
  cases runs with
  | nil => rfl
  | cons r rest => rw [insertRun, if_neg (h r List.mem_cons_self), place]

/-- **An insertion changes the list at the boundary and nowhere in front of it.** -/
theorem Boundary.runs_insert {k : Nat} (hk : Boundary (·.stop < x) s.runs k) :
    (s.insert x).runs = s.runs.take k ++ place x (s.runs.drop k) := by
  rw [← insertRun_eq_place hk.back, ← insertRun_append hk.front, List.take_append_drop]
  rfl

/-- Of ascending runs that all end behind a number, the first one has it or none has. -/
theorem exists_mem_span_iff {runs : List Run} (h : runs.Pairwise Run.Before)
    (hx : ∀ r ∈ runs, x < r.stop) :
    (∃ r ∈ runs, x ∈ r.span) ↔ ∃ r, runs.head? = some r ∧ r.start ≤ x := by
  constructor
  · rintro ⟨q, hq, hmem⟩
    obtain _ | ⟨r, rest⟩ := runs
    · exact absurd hq List.not_mem_nil
    · obtain rfl | hrest := List.mem_cons.mp hq
      · exact ⟨q, rfl, hmem.1⟩
      · have hbefore : r.stop < q.start := (List.pairwise_cons.mp h).1 q hrest
        exact absurd (hx r List.mem_cons_self) (hbefore.le.trans hmem.1).not_gt
  · rintro ⟨r, hhead, hstart⟩
    have hr : r ∈ runs := List.mem_of_head? hhead
    exact ⟨r, hr, hstart, hx r hr⟩

/-- A look-up reads one run, the first that does not end before the number. -/
theorem Boundary.contains_iff {k : Nat} (hk : Boundary (·.stop ≤ x) s.runs k) (h : s.Canonical) :
    s.contains x = true ↔ ∃ r, s.runs[k]? = some r ∧ r.start ≤ x := by
  have hback : (∃ r ∈ s.runs, x ∈ r.span) ↔ ∃ r ∈ s.runs.drop k, x ∈ r.span := by
    refine ⟨fun ⟨r, hr, hx⟩ => ⟨r, ?_, hx⟩, fun ⟨r, hr, hx⟩ => ⟨r, List.mem_of_mem_drop hr, hx⟩⟩
    rw [← List.take_append_drop k s.runs, List.mem_append] at hr
    exact hr.resolve_left fun hfront => (hk.front r hfront).not_gt hx.2
  rw [Retired.contains_iff, hback, exists_mem_span_iff h.apart.drop fun r hr =>
    Nat.lt_of_not_le (hk.back r hr), List.head?_drop]

/-- An insertion and a look-up find their run by one search each: the runs that a number is inserted
behind end before it, and those that are skipped when it is looked up may end at it as well. -/
structure Searched (s : Retired) : Prop where
  insert : ∀ x, ∃ k, Boundary (·.stop < x) s.runs k ∧
    (s.insert x).runs = s.runs.take k ++ place x (s.runs.drop k)
  lookup : ∀ x, ∃ k, Boundary (·.stop ≤ x) s.runs k ∧
    (s.contains x = true ↔ ∃ r, s.runs[k]? = some r ∧ r.start ≤ x)

/-- Both searches, at their own boundaries. -/
theorem Canonical.searched (h : s.Canonical) : s.Searched where
  insert x := by
    obtain ⟨k, hk⟩ := exists_boundary (p := (·.stop < x))
      (h.ascend.imp fun hlt hr => hlt.2.trans hr)
    exact ⟨k, hk, hk.runs_insert⟩
  lookup x := by
    obtain ⟨k, hk⟩ := exists_boundary (p := (·.stop ≤ x))
      (h.ascend.imp fun hlt hr => hlt.2.le.trans hr)
    exact ⟨k, hk, hk.contains_iff h⟩

/-! ## Any insertions in any order -/

/-- The set with some numbers in it, inserted one after the other. -/
def insertAll (ids : List Nat) (s : Retired) : Retired := ids.foldl (fun s x => s.insert x) s

/-- The set that some insertions make. -/
def ofList (ids : List Nat) : Retired := empty.insertAll ids

variable {ids : List Nat}

theorem Canonical.insertAll (h : s.Canonical) : (s.insertAll ids).Canonical := by
  induction ids generalizing s with
  | nil => exact h
  | cons x ids ih => exact ih (h.insert x)

/-- So the order of the insertions is lost. -/
theorem contains_insertAll (h : s.Canonical) :
    (s.insertAll ids).contains x = true ↔ x ∈ ids ∨ s.contains x = true := by
  induction ids generalizing s with
  | nil => simp [insertAll]
  | cons y ids ih =>
    have hstep : s.insertAll (y :: ids) = (s.insert y).insertAll ids := rfl
    rw [hstep, ih (h.insert y), contains_insert h.proper, Bool.or_eq_true, beq_iff_eq,
      List.mem_cons, or_left_comm, or_assoc]

theorem canonical_ofList (ids : List Nat) : (ofList ids).Canonical := canonical_empty.insertAll

theorem contains_ofList : (ofList ids).contains x = true ↔ x ∈ ids := by
  rw [ofList, contains_insertAll canonical_empty, contains_empty]
  simp

/-- A run ends at most one behind a number of the set. -/
theorem Proper.stop_le (h : s.Proper) {b : Nat} (hb : ∀ x, s.contains x = true → x < b)
    (hr : r ∈ s.runs) : r.stop ≤ b := by
  have hlt : r.start < r.stop := h r hr
  have hlast := hb (r.stop - 1) (contains_iff.mpr ⟨r, hr, Nat.le_sub_one_of_lt hlt, by omega⟩)
  omega

/-- **The runs are the maximal blocks of what was inserted, in whatever order.**  Where a run ends
is a 64-bit number as long as the greatest of these is not inserted. -/
theorem canonical_of_inserts (ids : List Nat) (hids : ∀ x ∈ ids, x < UInt64.size - 1) :
    (ofList ids).Canonical ∧ (ofList ids).Searched ∧
    (∀ r ∈ (ofList ids).runs, r.stop < UInt64.size) ∧
    (∀ x, (ofList ids).contains x = true ↔ x ∈ ids) ∧
    (∀ r, r ∈ (ofList ids).runs ↔ r.IsBlock {x | x ∈ ids}) ∧
    ∀ others, ofList others = ofList ids ↔ ∀ x, x ∈ others ↔ x ∈ ids := by
  have hform := canonical_ofList ids
  have hset : {x | (ofList ids).contains x = true} = {x | x ∈ ids} :=
    Set.ext fun _ => contains_ofList
  refine ⟨hform, hform.searched, fun r hr => ?_, fun _ => contains_ofList, fun r => ?_,
    fun others => ⟨fun heq x => ?_, fun hsame => ?_⟩⟩
  · have hstop := hform.proper.stop_le (fun x hx => hids x (contains_ofList.mp hx)) hr
    exact hstop.trans_lt (Nat.sub_lt (by decide) Nat.one_pos)
  · rw [hform.mem_runs_iff, hset]
  · rw [← contains_ofList, heq, contains_ofList]
  · refine (canonical_ofList others).ext hform fun x => ?_
    rw [contains_ofList, contains_ofList, hsame]

/-- Two blocks and the last number but one of 64 bits, with one number repeated. -/
def shuffled : List Nat := [5, 3, 9, UInt64.size - 2, 4, 8, 6, 3]

theorem canonical_of_shuffled :
    (∀ x ∈ shuffled, x < UInt64.size - 1) ∧
    (ofList shuffled).runs = [⟨3, 7⟩, ⟨8, 10⟩, ⟨UInt64.size - 2, UInt64.size - 1⟩] ∧
    (ofList shuffled).Canonical ∧ (ofList shuffled).Searched ∧
    (∀ r ∈ (ofList shuffled).runs, r.stop < UInt64.size) ∧
    (ofList shuffled).contains 6 = true ∧ ¬ (ofList shuffled).contains 7 = true ∧
    (⟨3, 7⟩ : Run).IsBlock {x | x ∈ shuffled} ∧
    ofList [3, 4, 5, 6, 8, 9, UInt64.size - 2] = ofList shuffled := by
  have hbelow : ∀ x ∈ shuffled, x < UInt64.size - 1 := by decide
  have hruns : (ofList shuffled).runs = [⟨3, 7⟩, ⟨8, 10⟩, ⟨UInt64.size - 2, UInt64.size - 1⟩] := by
    decide
  obtain ⟨hform, hsearched, hstop, hcontains, hblock, hothers⟩ :=
    canonical_of_inserts shuffled hbelow
  refine ⟨hbelow, hruns, hform, hsearched, hstop, (hcontains 6).mpr (by decide),
    (hcontains 7).not.mpr (by decide), (hblock _).mp (by rw [hruns]; decide),
    (hothers _).mpr fun x => ?_⟩
  simp only [shuffled, List.mem_cons, List.not_mem_nil, or_false]
  grind

end Retired
end DebugWire

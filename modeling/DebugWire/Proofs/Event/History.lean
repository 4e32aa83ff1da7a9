import DebugWire.Proofs.Event.Asking

/-!
# Proofs/Event/History — what a chain of filters means over a whole history

A history is a list of events, the latest first.  `Chain.came` says, from the events alone, how many
of them came to each filter of a chain; a count lets an event through exactly while fewer came to it
than it allows.  That is what an installed request does (`Request.follows`): its filters are at any
time what that many events leave of them.

`Request.meaning_of_history` puts together what this says of every answer, of when a request is
disabled, and of what it lets through in all.
-/

namespace DebugWire

/-! ## One filter -/

namespace Modifier

/-- Whether the filter lets an event through, after so many others came to it. -/
def lets (came : Nat) (s : Sighting) : Modifier → Bool
  | .count n => came < n
  | m => m.accepts s

/-- What is left of the filter, after so many events came to it. -/
def left (came : Nat) : Modifier → Modifier
  | .count n => .count (n - came)
  | m => m

/-- Whether the filter is a count that has nothing left, after so many events came to it. -/
def drained (came : Nat) : Modifier → Bool
  | .count n => n ≤ came
  | _ => false

/-- Only a count is ever drained. -/
theorem drained_iff {came : Nat} {m : Modifier} :
    m.drained came = true ↔ ∃ n, m = .count n ∧ n ≤ came := by
  cases m <;> simp [drained]

@[simp] theorem left_zero (m : Modifier) : m.left 0 = m := by
  cases m <;> rfl

/-- Whatever is not a count is as it was after any number of events. -/
theorem left_of_not_count {m : Modifier} (h : ∀ n, m ≠ .count n) (came : Nat) :
    m.left came = m := by
  cases m with
  | count n => exact absurd rfl (h n)
  | _ => rfl

/-- **What is left of a filter answers as the filter would after so many events.** -/
@[simp] theorem accepts_left (came : Nat) (s : Sighting) (m : Modifier) :
    (m.left came).accepts s = m.lets came s := by
  cases m with
  | count n => exact decide_eq_decide.mpr Nat.sub_pos_iff_lt
  | _ => rfl

/-- One more event is one less to come. -/
@[simp] theorem spent_left (came : Nat) (m : Modifier) :
    (m.left came).spent = m.left (came + 1) := by
  cases m <;> rfl

theorem isExhausted_count (n : Nat) : (count n).isExhausted = decide (n = 0) := by
  cases n <;> rfl

@[simp] theorem isExhausted_left (came : Nat) (m : Modifier) :
    (m.left came).isExhausted = m.drained came := by
  cases m with
  | count n =>
    exact (isExhausted_count _).trans (decide_eq_decide.mpr Nat.sub_eq_zero_iff_le)
  | _ => rfl

theorem lets_of_not_count {m : Modifier} (h : ∀ n, m ≠ .count n) (came : Nat) (s : Sighting) :
    m.lets came s = m.accepts s := by
  cases m with
  | count n => exact absurd rfl (h n)
  | _ => rfl

/-! ## A chain of filters -/

/-- The event gets past the first `i` filters, if so many came to each of them before. -/
def Pass (ms : List Modifier) (came : Nat → Nat) (s : Sighting) (i : Nat) : Prop :=
  ∀ j < i, (ms[j]?).all (lets (came j) s)

instance (ms : List Modifier) (came : Nat → Nat) (s : Sighting) (i : Nat) :
    Decidable (Pass ms came s i) :=
  inferInstanceAs (Decidable (∀ j < i, _))

@[simp] theorem pass_zero (ms : List Modifier) (came : Nat → Nat) (s : Sighting) :
    Pass ms came s 0 :=
  fun _ hj => absurd hj (Nat.not_lt_zero _)

/-- To come to a filter, an event must be let through by all in front of it. -/
theorem pass_cons_succ {m : Modifier} {ms : List Modifier} {came : Nat → Nat} {s : Sighting}
    {i : Nat} : Pass (m :: ms) came s (i + 1) ↔
      m.lets (came 0) s ∧ Pass ms (fun j => came (j + 1)) s i := by
  constructor
  · exact fun h => ⟨h 0 (Nat.succ_pos _), fun j hj => h (j + 1) (Nat.succ_lt_succ hj)⟩
  · rintro ⟨hfirst, hrest⟩ (_ | j) hj
    · exact hfirst
    · exact hrest j (Nat.lt_of_succ_lt_succ hj)

/-- To come through is to be let through by every one. -/
theorem pass_length_iff {ms : List Modifier} {came : Nat → Nat} {s : Sighting} :
    Pass ms came s ms.length ↔
      ∀ (i : Nat) (m : Modifier), ms[i]? = some m → m.lets (came i) s := by
  constructor
  · intro h i m hm
    simpa [hm] using h i (List.getElem?_eq_some_iff.mp hm).1
  · intro h i hi
    rw [List.getElem?_eq_getElem hi]
    exact h i _ (List.getElem?_eq_getElem hi)

/-- **One event more comes to the filters that it gets to**, and is let through if it gets past
all of them. -/
theorem askAll_left (s : Sighting) (ms : List Modifier) (came : Nat → Nat) :
    askAll s (ms.mapIdx fun i m => m.left (came i)) =
      (decide (Pass ms came s ms.length),
        ms.mapIdx fun i m => m.left (came i + if Pass ms came s i then 1 else 0)) := by
  induction ms generalizing came with
  | nil => simp [pass_zero]
  | cons m ms ih =>
    simp only [List.mapIdx_cons, List.length_cons, pass_cons_succ, pass_zero, if_true]
    cases hlets : m.lets (came 0) s with
    | true =>
      rw [askAll_cons_of_accepts (by rw [accepts_left, hlets]), ih]
      simp
    | false =>
      rw [askAll_cons_of_not_accepts (by rw [accepts_left, hlets])]
      simp

end Modifier

/-! ## A chain over a history -/

/-- A chain of filters for events of one kind. -/
structure Chain where
  kind : EventKind
  filters : List Modifier
deriving DecidableEq, Repr

namespace Chain

open Modifier (Pass)

variable {c : Chain} {s : Sighting} {past : List Sighting}

/-- Some count has nothing left, if so many events came to each filter. -/
def drained (c : Chain) (came : Nat → Nat) : Bool :=
  (c.filters.mapIdx fun i m => m.drained (came i)).any id

/-- How many events of a history, the latest first, came to each filter: those of the kind that got
past all filters in front of it, until after one of the kind some count has nothing left. -/
def came (c : Chain) : List Sighting → Nat → Nat
  | [], _ => 0
  | s :: past, i => c.came past i +
      if s.kind = c.kind ∧ ¬ ((∃ e ∈ past, e.kind = c.kind) ∧ c.drained (c.came past)) ∧
        Pass c.filters (c.came past) s i then 1 else 0

/-- An event of the kind came, and some count has nothing left. -/
def Over (c : Chain) (past : List Sighting) : Prop :=
  (∃ e ∈ past, e.kind = c.kind) ∧ c.drained (c.came past)

instance (c : Chain) (past : List Sighting) : Decidable (c.Over past) :=
  inferInstanceAs (Decidable (_ ∧ _))

/-- What a history leaves of the filters. -/
def leaves (c : Chain) (past : List Sighting) : List Modifier :=
  c.filters.mapIdx fun i m => m.left (c.came past i)

@[simp] theorem leaves_nil (c : Chain) : c.leaves [] = c.filters :=
  List.ext_getElem? fun i => by simp [leaves, came]

/-- Each filter is left what came to it, not what came to the chain. -/
theorem getElem?_leaves (c : Chain) (past : List Sighting) (i : Nat) :
    (c.leaves past)[i]? = (c.filters[i]?).map (·.left (c.came past i)) :=
  List.getElem?_mapIdx

/-- So the chain is exhausted as soon as one count is drained. -/
theorem any_isExhausted_leaves (c : Chain) (past : List Sighting) :
    (c.leaves past).any Modifier.isExhausted = c.drained (c.came past) := by
  have hmap : (c.leaves past).map Modifier.isExhausted =
      c.filters.mapIdx fun i m => m.drained (c.came past i) :=
    List.ext_getElem? fun i => by simp [getElem?_leaves, Function.comp_def]
  rw [drained, ← hmap, List.any_map, Function.id_comp]

theorem drained_iff {came : Nat → Nat} : c.drained came ↔
    ∃ i n, c.filters[i]? = some (.count n) ∧ n ≤ came i := by
  simp only [drained, List.any_eq_true, List.mem_mapIdx, id]
  constructor
  · rintro ⟨_, ⟨i, hi, rfl⟩, hdrained⟩
    obtain ⟨n, hcount, hn⟩ := Modifier.drained_iff.mp hdrained
    exact ⟨i, n, List.getElem?_eq_some_iff.mpr ⟨hi, hcount⟩, hn⟩
  · rintro ⟨i, n, hi, hn⟩
    obtain ⟨hlength, hcount⟩ := List.getElem?_eq_some_iff.mp hi
    exact ⟨true, ⟨i, hlength, Modifier.drained_iff.mpr ⟨n, hcount, hn⟩⟩, rfl⟩

/-- **An event comes to a filter if the kind is right, the request is not over, and all filters in
front let it through.** -/
theorem came_cons (c : Chain) (s : Sighting) (past : List Sighting) (i : Nat) :
    c.came (s :: past) i = c.came past i +
      if s.kind = c.kind ∧ ¬ c.Over past ∧ Pass c.filters (c.came past) s i then 1 else 0 := rfl

theorem came_cons_of_counts (h : s.kind = c.kind ∧ ¬ c.Over past) (i : Nat) :
    c.came (s :: past) i =
      c.came past i + if Pass c.filters (c.came past) s i then 1 else 0 := by
  simp only [came_cons, h.1, h.2, not_false_eq_true, true_and]

/-- Events that do not count leave everything as it was. -/
theorem came_cons_of_not (h : ¬ (s.kind = c.kind ∧ ¬ c.Over past)) :
    c.came (s :: past) = c.came past := by
  funext i
  rw [came_cons, if_neg fun hall => h ⟨hall.1, hall.2.1⟩, Nat.add_zero]

theorem not_over_nil : ¬ c.Over [] := fun h => absurd h.1 (by simp)

/-- A chain that is over stays so. -/
theorem Over.cons (h : c.Over past) (s : Sighting) : c.Over (s :: past) := by
  obtain ⟨⟨e, he, hkind⟩, hdrained⟩ := h
  refine ⟨⟨e, List.mem_cons_of_mem _ he, hkind⟩, ?_⟩
  rw [came_cons_of_not fun hall => hall.2 ⟨⟨e, he, hkind⟩, hdrained⟩]
  exact hdrained

/-- Once over, over for good. -/
theorem Over.of_suffix {later : List Sighting} (h : c.Over past) (hsuffix : past <:+ later) :
    c.Over later := by
  obtain ⟨new, rfl⟩ := hsuffix
  induction new with
  | nil => exact h
  | cons s new ih => exact ih.cons s

/-- A request is disabled by the event that drains a count of it, at once. -/
theorem over_cons_of_kind (hkind : s.kind = c.kind) :
    c.Over (s :: past) ↔ c.drained (c.came (s :: past)) :=
  and_iff_right ⟨s, List.mem_cons_self, hkind⟩

/-- Only an event that counts can end a chain. -/
theorem over_cons_of_not (h : ¬ (s.kind = c.kind ∧ ¬ c.Over past)) :
    c.Over (s :: past) ↔ c.Over past := by
  refine ⟨fun hover => ?_, fun hover => hover.cons s⟩
  by_contra hpast
  obtain ⟨⟨e, he, hkind⟩, hdrained⟩ := hover
  rw [came_cons_of_not h] at hdrained
  obtain rfl | he := List.mem_cons.mp he
  · exact h ⟨hkind, hpast⟩
  · exact hpast ⟨⟨e, he, hkind⟩, hdrained⟩

/-- **A chain is over from the first event on** of its kind that leaves some count with nothing. -/
theorem over_iff : c.Over past ↔ ∃ e before, (e :: before) <:+ past ∧ e.kind = c.kind ∧
    ∃ i n, c.filters[i]? = some (.count n) ∧ n ≤ c.came (e :: before) i := by
  constructor
  · intro h
    induction past with
    | nil => exact absurd h not_over_nil
    | cons s past ih =>
      by_cases hcounts : s.kind = c.kind ∧ ¬ c.Over past
      · exact ⟨s, past, List.suffix_rfl, hcounts.1, drained_iff.mp h.2⟩
      · obtain ⟨e, before, hsuffix, hdrained⟩ := ih ((over_cons_of_not hcounts).mp h)
        exact ⟨e, before, hsuffix.trans (List.suffix_cons _ _), hdrained⟩
  · rintro ⟨e, before, hsuffix, hkind, hdrained⟩
    exact Over.of_suffix ((over_cons_of_kind hkind).mpr (drained_iff.mpr hdrained)) hsuffix

/-- A chain without counts is never over. -/
theorem not_over_of_no_count (h : ∀ n, .count n ∉ c.filters) (past : List Sighting) :
    ¬ c.Over past := by
  intro hover
  obtain ⟨i, n, hcount, -⟩ := drained_iff.mp hover.2
  exact h n (List.mem_of_getElem? hcount)

end Chain

/-! ## A request over a history -/

namespace Request

open Modifier (Pass)

variable {c : Chain} {s : Sighting} {past : List Sighting} {r : Request}

/-- The request after it was asked about a history, the latest event first. -/
def after (r : Request) : List Sighting → Request
  | [] => r
  | s :: past => ((r.after past).ask s).2

/-- The answers of the request to a history, the latest first. -/
def answers (r : Request) : List Sighting → List Bool
  | [] => []
  | s :: past => ((r.after past).ask s).1 :: r.answers past

/-- The request is what a history leaves of a chain. -/
structure Follows (c : Chain) (past : List Sighting) (r : Request) : Prop where
  kind : r.kind = c.kind
  modifiers : r.modifiers = c.leaves past
  enabled_iff : r.enabled = true ↔ ¬ c.Over past
  asked : ∀ serial answer, r.last = some (serial, answer) → ∃ e ∈ past, e.serial = serial

/-- Before any event all filters are as they were set. -/
theorem follows_new (id : Int32) (kind : EventKind) (policy : SuspendPolicy)
    (modifiers : List Modifier) : (new id kind policy modifiers).Follows ⟨kind, modifiers⟩ [] where
  kind := rfl
  modifiers := (Chain.leaves_nil ⟨kind, modifiers⟩).symm
  enabled_iff := iff_of_true rfl Chain.not_over_nil
  asked _ _ h := absurd h nofun

namespace Follows

/-- A serial that is new in the history is new to the request. -/
theorem fresh (h : r.Follows c past) (hs : ∀ e ∈ past, e.serial ≠ s.serial) : r.Fresh s := by
  intro answer hlast
  obtain ⟨e, he, hserial⟩ := h.asked _ _ hlast
  exact hs e he hserial

/-- The request is asked about an event that counts. -/
theorem ask_of_counts (h : r.Follows c past) (hs : ∀ e ∈ past, e.serial ≠ s.serial)
    (hcounts : s.kind = c.kind ∧ ¬ c.Over past) :
    r.ask s = (decide (Pass c.filters (c.came past) s c.filters.length),
      { r with
        modifiers := c.leaves (s :: past)
        last := some (s.serial, decide (Pass c.filters (c.came past) s c.filters.length))
        enabled := !c.drained (c.came (s :: past)) }) := by
  have hleaves : c.leaves (s :: past) = c.filters.mapIdx fun i m =>
      m.left (c.came past i + if Pass c.filters (c.came past) s i then 1 else 0) := by
    simp only [Chain.leaves, Chain.came_cons_of_counts hcounts]
  rw [← Chain.any_isExhausted_leaves, hleaves, Request.ask, answered?_of_fresh (h.fresh hs)]
  dsimp only
  rw [if_pos ⟨h.enabled_iff.mpr hcounts.2, hcounts.1.trans h.kind.symm⟩, h.modifiers,
    Chain.leaves, Modifier.askAll_left]

/-- The request is asked about an event that does not count. -/
theorem ask_of_not (h : r.Follows c past) (hs : ∀ e ∈ past, e.serial ≠ s.serial)
    (hnot : ¬ (s.kind = c.kind ∧ ¬ c.Over past)) : r.ask s = (false, r) := by
  rw [Request.ask, answered?_of_fresh (h.fresh hs)]
  exact if_neg fun hall => hnot ⟨hall.2.trans h.kind, h.enabled_iff.mp hall.1⟩

/-- The answer to one more event. -/
theorem ask_fst (h : r.Follows c past) (hs : ∀ e ∈ past, e.serial ≠ s.serial) :
    (r.ask s).1 = true ↔ s.kind = c.kind ∧ ¬ c.Over past ∧
      Pass c.filters (c.came past) s c.filters.length := by
  by_cases hcounts : s.kind = c.kind ∧ ¬ c.Over past
  · rw [h.ask_of_counts hs hcounts, decide_eq_true_iff, ← and_assoc]
    exact (and_iff_right hcounts).symm
  · rw [h.ask_of_not hs hcounts, ← and_assoc]
    exact iff_of_false nofun fun hall => hcounts hall.1

/-- **Asked about one more event**, the request is what that leaves of the chain. -/
theorem ask (h : r.Follows c past) (hs : ∀ e ∈ past, e.serial ≠ s.serial) :
    (r.ask s).2.Follows c (s :: past) := by
  have hasked (serial : UInt64) (h : ∃ e ∈ past, e.serial = serial) :
      ∃ e ∈ s :: past, e.serial = serial := by
    obtain ⟨e, he, hserial⟩ := h
    exact ⟨e, List.mem_cons_of_mem _ he, hserial⟩
  by_cases hcounts : s.kind = c.kind ∧ ¬ c.Over past
  · rw [h.ask_of_counts hs hcounts]
    refine ⟨h.kind, rfl, ?_, fun serial answer hlast => ?_⟩
    · rw [Chain.over_cons_of_kind hcounts.1, Bool.not_eq_true, Bool.not_eq_true']
    · exact ⟨s, List.mem_cons_self, (Prod.mk.inj (Option.some.inj hlast)).1⟩
  · rw [h.ask_of_not hs hcounts]
    refine ⟨h.kind, ?_, ?_, fun serial answer hlast => hasked serial (h.asked _ _ hlast)⟩
    · rw [h.modifiers, Chain.leaves, Chain.leaves, Chain.came_cons_of_not hcounts]
    · rw [h.enabled_iff, Chain.over_cons_of_not hcounts]

end Follows

/-- **A request does what its chain of filters says**, whatever the history. -/
theorem follows_after (h : r.Follows c []) :
    ∀ {past : List Sighting}, past.Pairwise (fun e e' => e.serial ≠ e'.serial) →
      (r.after past).Follows c past
  | [], _ => h
  | s :: past, hserials => by
    obtain ⟨hnew, hpast⟩ := List.pairwise_cons.mp hserials
    exact (follows_after h hpast).ask fun e he => (hnew e he).symm

/-- What was before an event of a history, and that its serial is new. -/
theorem follows_before {later : List Sighting} (h : r.Follows c [])
    (hserials : later.Pairwise fun e e' => e.serial ≠ e'.serial) (hsuffix : s :: past <:+ later) :
    (r.after past).Follows c past ∧ ∀ e ∈ past, e.serial ≠ s.serial := by
  obtain ⟨hnew, hpast⟩ := List.pairwise_cons.mp (hserials.sublist hsuffix.sublist)
  exact ⟨follows_after h hpast, fun e he => (hnew e he).symm⟩

/-- What is let through came to every filter, and every count has something left for it. -/
theorem count_answers_le {i n : Nat} (h : r.Follows c [])
    (hcount : c.filters[i]? = some (.count n)) :
    ∀ {past : List Sighting}, past.Pairwise (fun e e' => e.serial ≠ e'.serial) →
      (r.answers past).count true ≤ n ∧ (r.answers past).count true ≤ c.came past i
  | [], _ => ⟨Nat.zero_le _, Nat.zero_le _⟩
  | s :: past, hserials => by
    obtain ⟨hfollows, hnew⟩ := follows_before h hserials List.suffix_rfl
    obtain ⟨hle, hcame⟩ := count_answers_le h hcount (List.pairwise_cons.mp hserials).2
    rw [answers]
    cases hanswer : ((r.after past).ask s).1 with
    | false =>
      rw [List.count_cons_of_ne (by decide)]
      exact ⟨hle, Nat.le_trans hcame (Nat.le_add_right _ _)⟩
    | true =>
      obtain ⟨hkind, hover, hpass⟩ := (hfollows.ask_fst hnew).mp hanswer
      have hlets : c.came past i < n := by
        simpa [Modifier.lets] using Modifier.pass_length_iff.mp hpass i _ hcount
      have hi : i ≤ c.filters.length := Nat.le_of_lt (List.getElem?_eq_some_iff.mp hcount).1
      have hpass' : Pass c.filters (c.came past) s i := fun j hj =>
        hpass j (Nat.lt_of_lt_of_le hj hi)
      rw [List.count_cons_self, Chain.came_cons_of_counts ⟨hkind, hover⟩, if_pos hpass']
      exact ⟨Nat.lt_of_le_of_lt hcame hlets, Nat.succ_le_succ hcame⟩

/-- Without counts, the answers depend on the filters alone. -/
theorem answers_of_no_count (h : r.Follows c []) (hnone : ∀ n, .count n ∉ c.filters) :
    ∀ {past : List Sighting}, past.Pairwise (fun e e' => e.serial ≠ e'.serial) →
      r.answers past =
        past.map fun s => decide (s.kind = c.kind ∧ ∀ m ∈ c.filters, m.accepts s = true)
  | [], _ => rfl
  | s :: past, hserials => by
    obtain ⟨hfollows, hnew⟩ := follows_before h hserials List.suffix_rfl
    have hlets (m : Modifier) (hm : m ∈ c.filters) (came : Nat) : m.lets came s = m.accepts s :=
      Modifier.lets_of_not_count (fun n hn => hnone n (hn ▸ hm)) came s
    have hpass : Pass c.filters (c.came past) s c.filters.length ↔
        ∀ m ∈ c.filters, m.accepts s = true := by
      rw [Modifier.pass_length_iff]
      constructor
      · intro hall m hm
        obtain ⟨i, hi⟩ := List.mem_iff_getElem?.mp hm
        exact hlets m hm _ ▸ hall i m hi
      · intro hall i m hi
        have hm := List.mem_of_getElem? hi
        exact (hlets m hm _).trans (hall m hm)
    rw [answers, List.map_cons, answers_of_no_count h hnone (List.pairwise_cons.mp hserials).2]
    refine congrArg (· :: _) (Bool.eq_iff_iff.mpr ?_)
    rw [hfollows.ask_fst hnew, hpass, decide_eq_true_iff,
      and_iff_right (Chain.not_over_of_no_count hnone past)]

/-- What a request does over a history, told by the events alone. -/
structure Meaning (r : Request) (c : Chain) (past : List Sighting) : Prop where
  /-- It lets an event through exactly if that is of its kind, the request is enabled, and every
  filter lets the event through in turn. -/
  answer_iff : ∀ s before, s :: before <:+ past →
    (((r.after before).ask s).1 = true ↔ s.kind = c.kind ∧ (r.after before).enabled = true ∧
      ∀ (i : Nat) (m : Modifier), c.filters[i]? = some m → m.lets (c.came before i) s = true)
  /-- What comes to a filter are the events of the kind that got past all filters in front of it
  while the request was enabled. -/
  came_cons : ∀ s before i, s :: before <:+ past → c.came (s :: before) i = c.came before i +
    if s.kind = c.kind ∧ (r.after before).enabled = true ∧
      ∀ j < i, (c.filters[j]?).all (Modifier.lets (c.came before j) s) then 1 else 0
  /-- It is disabled from the first event on of its kind that leaves some count with nothing. -/
  disabled_iff : (r.after past).enabled = false ↔
    ∃ s before, s :: before <:+ past ∧ s.kind = c.kind ∧
      ∃ i n, c.filters[i]? = some (.count n) ∧ n ≤ c.came (s :: before) i
  /-- Once it is disabled, it lets nothing through. -/
  silent : ∀ before s later, before <:+ later → s :: later <:+ past →
    (r.after before).enabled = false → ((r.after later).ask s).1 = false
  /-- It lets no more through than any of its counts allows. -/
  count_answers_le : ∀ n, .count n ∈ c.filters → (r.answers past).count true ≤ n
  /-- Every filter stays where it is. -/
  length_filters : (r.after past).modifiers.length = c.filters.length
  /-- A filter that is no count never changes. -/
  unchanged : ∀ (i : Nat) (m : Modifier), c.filters[i]? = some m → (∀ n, m ≠ .count n) →
    (r.after past).modifiers[i]? = some m
  /-- A count loses one for each event that came to it. -/
  counted : ∀ i n : Nat, c.filters[i]? = some (.count n) →
    (r.after past).modifiers[i]? = some (.count (n - c.came past i))
  /-- Without counts, the order of the filters is of no matter. -/
  unordered : (∀ n, .count n ∉ c.filters) → ∀ ms, c.filters.Perm ms →
    ({ r with modifiers := ms } : Request).answers past = r.answers past

theorem Follows.meaning (h : r.Follows c [])
    (hserials : past.Pairwise fun e e' => e.serial ≠ e'.serial) : r.Meaning c past where
  answer_iff s before hsuffix := by
    obtain ⟨hfollows, hnew⟩ := follows_before h hserials hsuffix
    rw [hfollows.ask_fst hnew, hfollows.enabled_iff, Modifier.pass_length_iff]
  came_cons s before i hsuffix := by
    obtain ⟨hfollows, -⟩ := follows_before h hserials hsuffix
    rw [Chain.came_cons]
    refine congrArg (c.came before i + ·) (if_congr ?_ rfl rfl)
    rw [hfollows.enabled_iff]
    rfl
  disabled_iff := by
    rw [← Chain.over_iff, ← Bool.not_eq_true, (follows_after h hserials).enabled_iff,
      Decidable.not_not]
  silent before s later hsuffix hlater hdisabled := by
    obtain ⟨hfollows, hnew⟩ := follows_before h hserials hlater
    have hbefore := follows_after h (hserials.sublist
      (hsuffix.trans ((List.suffix_cons s later).trans hlater)).sublist)
    have hover : c.Over before := by
      by_contra hopen
      exact Bool.false_ne_true (hdisabled.symm.trans (hbefore.enabled_iff.mpr hopen))
    rw [← Bool.not_eq_true, hfollows.ask_fst hnew]
    exact fun hall => hall.2.1 (hover.of_suffix hsuffix)
  count_answers_le n hn := by
    obtain ⟨i, hi, hcount⟩ := List.getElem_of_mem hn
    exact (Request.count_answers_le h (List.getElem?_eq_some_iff.mpr ⟨hi, hcount⟩) hserials).1
  length_filters := by
    rw [(follows_after h hserials).modifiers, Chain.leaves, List.length_mapIdx]
  unchanged i m hm hnot := by
    rw [(follows_after h hserials).modifiers, Chain.getElem?_leaves, hm, Option.map_some,
      Modifier.left_of_not_count hnot]
  counted i n hn := by
    rw [(follows_after h hserials).modifiers, Chain.getElem?_leaves, hn]
    rfl
  unordered hnone ms hperm := by
    have h' : ({ r with modifiers := ms } : Request).Follows ⟨c.kind, ms⟩ [] :=
      ⟨h.kind, (Chain.leaves_nil ⟨c.kind, ms⟩).symm,
        iff_of_true (h.enabled_iff.mpr Chain.not_over_nil) Chain.not_over_nil, h.asked⟩
    rw [answers_of_no_count h hnone hserials,
      answers_of_no_count h' (fun n hn => hnone n (hperm.mem_iff.mpr hn)) hserials]
    simp only [hperm.mem_iff]

/-- **The meaning of a chain of filters** over every history in which no serial comes twice. -/
theorem meaning_of_history (id : Int32) (kind : EventKind) (policy : SuspendPolicy)
    (modifiers : List Modifier) {past : List Sighting}
    (hserials : past.Pairwise fun e e' => e.serial ≠ e'.serial) :
    (new id kind policy modifiers).Meaning ⟨kind, modifiers⟩ past :=
  (follows_new id kind policy modifiers).meaning hserials

/-- A breakpoint is met in two threads, and a step is made in between. -/
def visits : List Sighting :=
  [{ serial := 5, kind := .breakpoint, thread := some ⟨7⟩ },
    { serial := 4, kind := .breakpoint, thread := some ⟨7⟩ },
    { serial := 3, kind := .singleStep, thread := some ⟨7⟩ },
    { serial := 2, kind := .breakpoint, thread := some ⟨8⟩ },
    { serial := 1, kind := .breakpoint, thread := some ⟨7⟩ }]

/-- The visit of the other thread counts only in front of the filter that refuses it.  After the
fourth event nothing is left of either count. -/
theorem meaning_of_visits :
    (new 1 .breakpoint .all [.count 3, .threadOnly ⟨7⟩, .count 2]).Meaning
      ⟨.breakpoint, [.count 3, .threadOnly ⟨7⟩, .count 2]⟩ visits ∧
    (new 1 .breakpoint .all [.count 3, .threadOnly ⟨7⟩, .count 2]).answers visits =
      [false, true, false, false, true] ∧
    (Chain.mk .breakpoint [.count 3, .threadOnly ⟨7⟩, .count 2]).came visits 2 = 2 := by
  refine ⟨meaning_of_history _ _ _ _ (by decide), ?_, ?_⟩
  · decide
  · decide

end Request
end DebugWire

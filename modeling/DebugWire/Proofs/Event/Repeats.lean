import DebugWire.Proofs.Event.History

/-!
# Proofs/Event/Repeats — events that are evaluated more than once

A request remembers the last event that it was asked about while it was enabled, and answers it as
before (`Request.ask_ask`).  So an event whose evaluations follow each other gets one answer and
takes no more than one from any count, however often it is evaluated; what the request is asked once
it is disabled does not come between them (`Request.Recent`).  After another event the request has
forgotten this one: it is taken for a new event (`Request.fresh_of_not_recent`).

`Request.steady_of_evaluations` says both of any evaluations in any order, and that without counts
it is of no matter.
-/

namespace DebugWire

/-! ## One filter -/

/-- A filter is left as it was, or asked once. -/
theorem Modifier.getElem?_askAll (s : Sighting) (ms : List Modifier) (i : Nat) :
    (askAll s ms).2[i]? = ms[i]? ∨ (askAll s ms).2[i]? = (ms[i]?).map spent := by
  induction ms generalizing i with
  | nil => exact Or.inl rfl
  | cons m ms ih =>
    cases haccepts : m.accepts s with
    | true =>
      rw [askAll_cons_of_accepts haccepts]
      cases i with
      | zero => exact Or.inr rfl
      | succ i => exact ih i
    | false =>
      rw [askAll_cons_of_not_accepts haccepts]
      cases i with
      | zero => exact Or.inr rfl
      | succ i => exact Or.inl rfl

theorem Modifier.spent_of_not_count {m : Modifier} (h : ∀ n, m ≠ .count n) : m.spent = m := by
  cases m with
  | count n => exact absurd rfl (h n)
  | _ => rfl

theorem Modifier.isExhausted_of_not_count {m : Modifier} (h : ∀ n, m ≠ .count n) :
    m.isExhausted = false := by
  cases m with
  | count n => exact absurd rfl (h n)
  | _ => rfl

/-- Asking changes nothing but counts. -/
theorem Modifier.askAll_of_no_count (s : Sighting) {ms : List Modifier}
    (h : ∀ n, .count n ∉ ms) : (askAll s ms).2 = ms := by
  refine List.ext_getElem? fun i => ?_
  obtain hsame | hspent := getElem?_askAll s ms i
  · exact hsame
  · rw [hspent]
    cases hm : ms[i]? with
    | none => rfl
    | some m =>
      have hcount : ∀ n, m ≠ .count n := fun n hn => h n (hn ▸ List.mem_of_getElem? hm)
      exact congrArg some (spent_of_not_count hcount)

namespace Request

variable {r : Request} {s s' : Sighting} {past evals : List Sighting} {serial : UInt64}

/-! ## One request -/

/-- The last event that was remembered is answered as before. -/
theorem ask_of_last {answer : Bool} (h : r.last = some (s.serial, answer)) :
    r.ask s = (answer, r) := by
  rw [ask, answered?, h]
  simp

/-- A request that is disabled only remembers. -/
theorem ask_of_disabled (h : r.enabled = false) (s : Sighting) :
    r.ask s = ((r.answered? s).getD false, r) := by
  rw [ask]
  cases r.answered? s with
  | some answer => rfl
  | none => exact if_neg fun hasked => Bool.false_ne_true (h.symm.trans hasked.1)

/-- **While it is enabled, a request remembers what it is asked last**, with the answer. -/
theorem last_ask_of_enabled (henabled : r.enabled = true) (hkind : s.kind = r.kind) :
    (r.ask s).2.last = some (s.serial, (r.ask s).1) := by
  by_cases hfresh : r.Fresh s
  · rw [ask, answered?_of_fresh hfresh]
    simp only [henabled, hkind, and_self, if_true]
  · obtain ⟨answer, hlast⟩ := not_forall.mp hfresh
    have hlast := not_not.mp hlast
    rw [ask_of_last hlast]
    exact hlast

/-- **Asked again about the same event**, a request gives the same answer, and stays as it is. -/
theorem ask_ask (hserial : s'.serial = s.serial) (hkind : s.kind = r.kind) :
    (r.ask s).2.ask s' = r.ask s := by
  cases henabled : r.enabled with
  | true =>
    have hlast := last_ask_of_enabled henabled hkind
    rw [← hserial] at hlast
    exact ask_of_last hlast
  | false =>
    have hsame : r.answered? s' = r.answered? s := by rw [answered?, answered?, hserial]
    rw [ask_of_disabled henabled s, ask_of_disabled henabled s', hsame]

/-- An event that the request does not remember goes through the filters, if it is enabled. -/
theorem ask_of_fresh (h : r.Fresh s) (hkind : s.kind = r.kind) :
    (r.ask s).1 = (r.enabled && (Modifier.askAll s r.modifiers).1) ∧
      (r.ask s).2.modifiers =
        if r.enabled then (Modifier.askAll s r.modifiers).2 else r.modifiers := by
  rw [ask, answered?_of_fresh h]
  cases r.enabled <;> simp [hkind]

/-- What the count at a place of the chain has left.  What is no count has nothing. -/
def remaining (r : Request) (i : Nat) : Nat :=
  match r.modifiers[i]? with
  | some (.count n) => n
  | _ => 0

/-- An evaluation takes at most one from a count. -/
theorem remaining_le_ask (r : Request) (s : Sighting) (i : Nat) :
    r.remaining i ≤ (r.ask s).2.remaining i + 1 := by
  have hleft : (r.ask s).2.modifiers[i]? = r.modifiers[i]? ∨
      (r.ask s).2.modifiers[i]? = (r.modifiers[i]?).map Modifier.spent := by
    obtain hsame | ⟨-, hasked⟩ := r.ask_snd_cases s
    · rw [hsame]
      exact Or.inl rfl
    · rw [hasked]
      exact Modifier.getElem?_askAll s r.modifiers i
  unfold remaining
  obtain hsame | hspent := hleft
  · rw [hsame]
    exact Nat.le_succ _
  · rw [hspent]
    cases hm : r.modifiers[i]? with
    | none => exact Nat.zero_le _
    | some m =>
      cases m with
      | count n => exact Nat.le_of_pred_lt (Nat.lt_succ_self _)
      | _ => exact Nat.zero_le _

/-! ## Evaluations in a row -/

@[simp] theorem kind_after (r : Request) (past : List Sighting) : (r.after past).kind = r.kind := by
  induction past with
  | nil => rfl
  | cons s past ih => rw [after, kind_ask, ih]

/-- The event was evaluated, and since then no other one while the request was enabled. -/
def Recent (r : Request) (serial : UInt64) : List Sighting → Prop
  | [] => False
  | e :: past => e.serial = serial ∨ (r.after past).enabled = false ∧ r.Recent serial past

/-- Whenever the event is evaluated again, it is recent. -/
def Together (r : Request) (serial : UInt64) (evals : List Sighting) : Prop :=
  ∀ s past, s :: past <:+ evals → s.serial = serial → (∃ e ∈ past, e.serial = serial) →
    r.Recent serial past

theorem Together.of_cons (h : r.Together serial (s :: past)) : r.Together serial past :=
  fun e before hsuffix => h e before (hsuffix.trans (List.suffix_cons s past))

/-- **A recent event is answered as when it was evaluated last**, and nothing changes. -/
theorem Recent.ask (h : r.Recent s.serial past) (hkind : ∀ e ∈ past, e.kind = r.kind) :
    ∃ e before, e :: before <:+ past ∧ e.serial = s.serial ∧
      (r.after past).ask s = (((r.after before).ask e).1, r.after past) := by
  induction past with
  | nil => exact h.elim
  | cons e past ih =>
    obtain ⟨he, hpast⟩ := List.forall_mem_cons.mp hkind
    obtain hserial | ⟨hdisabled, hrecent⟩ := h
    · refine ⟨e, past, List.suffix_rfl, hserial, ?_⟩
      exact ask_ask hserial.symm (he.trans (r.kind_after past).symm)
    · obtain ⟨e', before, hsuffix, hserial, hask⟩ := ih hrecent hpast
      have hsame : r.after (e :: past) = r.after past :=
        congrArg Prod.snd (ask_of_disabled hdisabled e)
      rw [hsame]
      exact ⟨e', before, hsuffix.trans (List.suffix_cons e past), hserial, hask⟩

/-- **An event that is no longer recent was forgotten.** -/
theorem fresh_of_not_recent (hbefore : ∃ e ∈ past, e.serial = s.serial)
    (h : ¬ r.Recent s.serial past) (hkind : ∀ e ∈ past, e.kind = r.kind) :
    (r.after past).Fresh s := by
  induction past with
  | nil => exact absurd hbefore (by simp)
  | cons e past ih =>
    obtain ⟨he, hpast⟩ := List.forall_mem_cons.mp hkind
    obtain ⟨hserial, hrecent⟩ := not_or.mp h
    cases henabled : (r.after past).enabled with
    | true =>
      have hlast : (r.after (e :: past)).last = some (e.serial, ((r.after past).ask e).1) :=
        last_ask_of_enabled henabled (he.trans (r.kind_after past).symm)
      intro answer hsame
      exact hserial (Prod.mk.inj (Option.some.inj (hlast.symm.trans hsame))).1
    | false =>
      have hsame : r.after (e :: past) = r.after past :=
        congrArg Prod.snd (ask_of_disabled henabled e)
      obtain ⟨e', he', hserial'⟩ := hbefore
      have hold : e' ∈ past := by
        obtain rfl | hold := List.mem_cons.mp he'
        · exact absurd hserial' hserial
        · exact hold
      rw [hsame]
      exact ih ⟨e', hold, hserial'⟩ (fun hr => hrecent ⟨henabled, hr⟩) hpast

/-! ## Answers -/

/-- The answer to the first evaluation of an event. -/
def firstAnswer? (r : Request) (serial : UInt64) : List Sighting → Option Bool
  | [] => none
  | s :: past => (r.firstAnswer? serial past).or
      (if s.serial = serial then some ((r.after past).ask s).1 else none)

theorem firstAnswer?_eq_none (h : ∀ e ∈ past, e.serial ≠ serial) :
    r.firstAnswer? serial past = none := by
  induction past with
  | nil => rfl
  | cons s past ih =>
    obtain ⟨hs, hpast⟩ := List.forall_mem_cons.mp h
    rw [firstAnswer?, ih hpast, if_neg hs, Option.none_or]

/-- The evaluations of an event that follow each other are answered as the first. -/
theorem Together.firstAnswer? (h : r.Together serial evals)
    (hkind : ∀ e ∈ evals, e.kind = r.kind) (hsuffix : s :: past <:+ evals)
    (hserial : s.serial = serial) :
    r.firstAnswer? serial evals = some ((r.after past).ask s).1 := by
  induction evals generalizing s past with
  | nil => exact absurd (List.suffix_nil.mp hsuffix) (List.cons_ne_nil _ _)
  | cons e evals ih =>
    have hevals := (List.forall_mem_cons.mp hkind).2
    obtain heq | hold := List.suffix_cons_iff.mp hsuffix
    · obtain ⟨rfl, rfl⟩ := List.cons.inj heq
      rw [Request.firstAnswer?]
      by_cases hbefore : ∃ e ∈ past, e.serial = serial
      · have hrecent := h s past List.suffix_rfl hserial hbefore
        subst hserial
        obtain ⟨e, before, hsuffix', hserial', hask⟩ := hrecent.ask hevals
        rw [ih h.of_cons hevals hsuffix' hserial', Option.some_or, hask]
      · rw [firstAnswer?_eq_none (by simpa using hbefore), if_pos hserial, Option.none_or]
    · rw [Request.firstAnswer?, ih h.of_cons hevals hold hserial, Option.some_or]

/-! ## Counts -/

/-- How much the evaluations of an event took from the count at a place of the chain. -/
def taken (r : Request) (serial : UInt64) (i : Nat) : List Sighting → Nat
  | [] => 0
  | s :: past => r.taken serial i past +
      if s.serial = serial then (r.after past).remaining i - (r.after (s :: past)).remaining i
      else 0

theorem taken_eq_zero (h : ∀ e ∈ past, e.serial ≠ serial) (i : Nat) :
    r.taken serial i past = 0 := by
  induction past with
  | nil => rfl
  | cons s past ih =>
    obtain ⟨hs, hpast⟩ := List.forall_mem_cons.mp h
    rw [taken, ih hpast, if_neg hs]

/-- The evaluations of an event that follow each other take no more than one from a count. -/
theorem Together.taken_le_one (h : r.Together serial evals)
    (hkind : ∀ e ∈ evals, e.kind = r.kind) (i : Nat) : r.taken serial i evals ≤ 1 := by
  induction evals with
  | nil => exact Nat.zero_le 1
  | cons s evals ih =>
    have hevals := (List.forall_mem_cons.mp hkind).2
    rw [taken]
    by_cases hserial : s.serial = serial
    · rw [if_pos hserial]
      by_cases hbefore : ∃ e ∈ evals, e.serial = serial
      · have hrecent := h s evals List.suffix_rfl hserial hbefore
        subst hserial
        obtain ⟨_, _, -, -, hask⟩ := hrecent.ask hevals
        have hsame : r.after (s :: evals) = r.after evals := congrArg Prod.snd hask
        rw [hsame, Nat.sub_self]
        exact ih h.of_cons hevals
      · have hstep := (r.after evals).remaining_le_ask s i
        rw [taken_eq_zero (by simpa using hbefore)]
        change 0 + ((r.after evals).remaining i - ((r.after evals).ask s).2.remaining i) ≤ 1
        omega
    · rw [if_neg hserial]
      exact ih h.of_cons hevals

/-! ## Without counts -/

/-- A request without counts stays as it is, and remembers what the filters say. -/
structure Fixed (r : Request) (past : List Sighting) (x : Request) : Prop where
  kind : x.kind = r.kind
  modifiers : x.modifiers = r.modifiers
  enabled : x.enabled = r.enabled
  last : ∀ serial answer, x.last = some (serial, answer) → ∃ e ∈ past, e.serial = serial ∧
    answer = (r.enabled && r.modifiers.all (·.accepts e))

theorem Fixed.ask_fst {x : Request} (h : r.Fixed past x) (hkind : s.kind = r.kind)
    (hfacts : ∀ e ∈ past, e.serial = s.serial → e = s) :
    (x.ask s).1 = (r.enabled && r.modifiers.all (·.accepts s)) := by
  by_cases hfresh : x.Fresh s
  · rw [(ask_of_fresh hfresh (hkind.trans h.kind.symm)).1, Modifier.askAll_fst, h.modifiers,
      h.enabled]
  · obtain ⟨answer, hlast⟩ := not_forall.mp hfresh
    have hlast := not_not.mp hlast
    obtain ⟨e, he, hserial, hanswer⟩ := h.last _ _ hlast
    rw [ask_of_last hlast, hanswer, hfacts e he hserial]

theorem Fixed.ask {x : Request} (h : r.Fixed past x) (hnone : ∀ n, .count n ∉ r.modifiers)
    (s : Sighting) : r.Fixed (s :: past) (x.ask s).2 := by
  obtain hsame | ⟨henabled, hasked⟩ := x.ask_snd_cases s
  · rw [hsame]
    refine ⟨h.kind, h.modifiers, h.enabled, fun serial answer hlast => ?_⟩
    obtain ⟨e, he, hanswer⟩ := h.last serial answer hlast
    exact ⟨e, List.mem_cons_of_mem s he, hanswer⟩
  · have hleft : (Modifier.askAll s x.modifiers).2 = r.modifiers := by
      rw [h.modifiers]
      exact Modifier.askAll_of_no_count s hnone
    have hopen : r.modifiers.any Modifier.isExhausted = false :=
      List.any_eq_false.mpr fun m hm hexhausted => Bool.false_ne_true <|
        (Modifier.isExhausted_of_not_count fun n hn => hnone n (hn ▸ hm)).symm.trans hexhausted
    have hanswer : (Modifier.askAll s x.modifiers).1 =
        (r.enabled && r.modifiers.all (·.accepts s)) := by
      rw [Modifier.askAll_fst, h.modifiers, ← h.enabled, henabled, Bool.true_and]
    rw [hasked, hleft, hanswer, hopen]
    refine ⟨h.kind, rfl, henabled.symm.trans h.enabled, fun serial answer hlast => ?_⟩
    obtain ⟨rfl, rfl⟩ := Prod.mk.inj (Option.some.inj hlast)
    exact ⟨s, List.mem_cons_self, rfl, rfl⟩

/-- Without counts, nothing that is asked makes a difference. -/
theorem fixed_after (hlast : r.last = none) (hnone : ∀ n, .count n ∉ r.modifiers)
    (past : List Sighting) : r.Fixed past (r.after past) := by
  induction past with
  | nil => exact ⟨rfl, rfl, rfl, fun _ _ hsome => absurd (hlast.symm.trans hsome) nofun⟩
  | cons s past ih => exact ih.ask hnone s

/-! ## Any evaluations -/

/-- What a request does when events are evaluated more than once, the latest evaluation first. -/
structure Steady (r : Request) (evals : List Sighting) : Prop where
  /-- An event whose evaluations follow each other is answered as at first, each time. -/
  answer : ∀ serial, r.Together serial evals → ∀ s past, s :: past <:+ evals →
    s.serial = serial → r.firstAnswer? serial evals = some ((r.after past).ask s).1
  /-- All of them take no more than one from any count. -/
  taken_le_one : ∀ serial, r.Together serial evals → ∀ i, r.taken serial i evals ≤ 1
  /-- An event that another one came after is taken for a new one: if the request is enabled, the
  event goes through the filters once more. -/
  anew : ∀ s past, s :: past <:+ evals → (∃ e ∈ past, e.serial = s.serial) →
    ¬ r.Recent s.serial past →
      ((r.after past).ask s).1 =
        ((r.after past).enabled && (Modifier.askAll s (r.after past).modifiers).1) ∧
      (r.after (s :: past)).modifiers =
        if (r.after past).enabled then (Modifier.askAll s (r.after past).modifiers).2
        else (r.after past).modifiers
  /-- Without counts, an event always gets the same answer. -/
  uncounted : r.last = none → (∀ n, .count n ∉ r.modifiers) → ∀ s past, s :: past <:+ evals →
    ((r.after past).ask s).1 = (r.enabled && r.modifiers.all (·.accepts s))

/-- **Evaluations of the same event**, in any order and any number, as long as a serial always
stands for one event of the request's kind. -/
theorem steady_of_evaluations (r : Request) {evals : List Sighting}
    (hkind : ∀ e ∈ evals, e.kind = r.kind)
    (hfacts : ∀ e ∈ evals, ∀ e' ∈ evals, e.serial = e'.serial → e = e') : r.Steady evals where
  answer serial h s past hsuffix hserial := h.firstAnswer? hkind hsuffix hserial
  taken_le_one serial h i := h.taken_le_one hkind i
  anew s past hsuffix hbefore hrecent := by
    have hold : ∀ e ∈ past, e.kind = r.kind := fun e he =>
      hkind e (hsuffix.subset (List.mem_cons_of_mem s he))
    have hs := hkind s (hsuffix.subset List.mem_cons_self)
    exact ask_of_fresh (fresh_of_not_recent hbefore hrecent hold)
      (hs.trans (r.kind_after past).symm)
  uncounted hlast hnone s past hsuffix := by
    have hs := hsuffix.subset List.mem_cons_self
    refine (fixed_after hlast hnone past).ask_fst (hkind s hs) fun e he => ?_
    exact hfacts e (hsuffix.subset (List.mem_cons_of_mem s he)) s hs

/-- A breakpoint that a thread meets. -/
def stop (serial : UInt64) : Sighting :=
  { serial := serial, kind := .breakpoint, thread := some ⟨7⟩ }

/-- The first of two events is evaluated three times in a row, the second twice, and twice more when
the request is disabled and was asked about a third one: each takes one from the count. -/
theorem steady_of_stops :
    (new 1 .breakpoint .all [.threadOnly ⟨7⟩, .count 2]).Steady
      [stop 8, stop 9, stop 8, stop 8, stop 7, stop 7, stop 7] ∧
    (new 1 .breakpoint .all [.threadOnly ⟨7⟩, .count 2]).answers
      [stop 8, stop 9, stop 8, stop 8, stop 7, stop 7, stop 7] =
        [true, false, true, true, true, true, true] ∧
    (new 1 .breakpoint .all [.threadOnly ⟨7⟩, .count 2]).taken 8 1
      [stop 8, stop 9, stop 8, stop 8, stop 7, stop 7, stop 7] = 1 := by
  refine ⟨steady_of_evaluations _ (by decide) (by decide), ?_, ?_⟩
  · decide
  · decide

/-- **An event that is evaluated again after another one** takes from the count once more, and is
refused if that leaves nothing for it. -/
theorem taken_again :
    (new 1 .breakpoint .all [.count 2]).answers [stop 7, stop 8, stop 7] = [false, true, true] ∧
    (new 1 .breakpoint .all [.count 3]).taken 7 0 [stop 7, stop 8, stop 7] = 2 := by
  constructor
  · decide
  · decide

end Request
end DebugWire

import DebugWire.Proofs.Event.Asking

/-!
# Proofs/Event/Numbering — the numbers that requests get

A table numbers the requests that are set in it: the first gets `1`, and after `2147483647` the
numbers start over (`nextId_after`).  A new request touches nothing but the entry of its own number.

The table does not look whether that entry is taken.  `numbered_of_calls` says when it is: exactly
if an earlier request with the number was never removed while 2147483646 others were set after it.
Then that one is lost, as in `overwritten`.

The tables of a session also count serials; `ComesOf` says which calls such a table comes of.
-/

namespace DebugWire.RequestTable

/-! ## Numbers -/

/-- The number of a request that so many were set before. -/
def numbered (n : Nat) : Int32 := Int32.ofNat (n % 2147483647 + 1)

theorem toInt_numbered (n : Nat) : (numbered n).toInt = n % 2147483647 + 1 := by
  unfold numbered
  rw [Int32.toInt_ofNat_of_lt (by omega)]
  omega

theorem numbered_pos (n : Nat) : 0 < numbered n := by
  rw [Int32.lt_iff_toInt_lt, toInt_numbered]
  change (0 : Int) < _
  omega

/-- Two requests have the same number if all numbers were used in between. -/
theorem numbered_eq_iff {m n : Nat} :
    numbered m = numbered n ↔ m % 2147483647 = n % 2147483647 := by
  rw [← Int32.toInt_inj, toInt_numbered, toInt_numbered]
  omega

/-- The numbers are counted up, and start over after the greatest. -/
theorem max_numbered_add_one (n : Nat) : max (numbered n + 1) 1 = numbered (n + 1) := by
  have hone : (1 : Int32).toInt = 1 := rfl
  have hsucc := Int32.toInt_add (numbered n) 1
  rw [toInt_numbered, hone, Int.bmod_def] at hsucc
  have hmax : max (numbered n + 1) 1 = if numbered n + 1 ≤ 1 then 1 else numbered n + 1 := rfl
  rw [hmax, ← Int32.toInt_inj, toInt_numbered]
  split
  · next hle =>
    rw [Int32.le_iff_toInt_le, hone] at hle
    rw [hone]
    omega
  · next hgt =>
    rw [Int32.le_iff_toInt_le, hone] at hgt
    omega

/-! ## Calls -/

/-- What can be done to the requests of a table. -/
inductive Call where
  | set (kind : EventKind) (policy : SuspendPolicy) (modifiers : List Modifier)
  | clear (kind : EventKind) (id : Int32)
  | clearBreakpoints
  | clearAll
  | ask (s : Sighting)

/-- The table that a call leaves. -/
def perform (t : RequestTable) : Call → RequestTable
  | .set kind policy modifiers => (t.set kind policy modifiers).2
  | .clear kind id => (t.clear kind id).2
  | .clearBreakpoints => t.clearBreakpoints.2
  | .clearAll => t.clearAll
  | .ask s => (t.ask s).2

/-- The table after some calls, the latest first. -/
def after : List Call → RequestTable
  | [] => empty
  | call :: past => (after past).perform call

/-- How many requests were set. -/
def sets : List Call → Nat
  | [] => 0
  | .set .. :: past => sets past + 1
  | _ :: past => sets past

theorem sets_append (later past : List Call) : sets (later ++ past) = sets later + sets past := by
  induction later with
  | nil => exact (Nat.zero_add _).symm
  | cons call later ih =>
    cases call with
    | set kind policy modifiers =>
      change sets (later ++ past) + 1 = sets later + 1 + sets past
      omega
    | _ => exact ih

variable {t : RequestTable} {id : Int32} {call : Call} {calls : List Call}

/-- **The next number** is that of a request before which all the others were set. -/
theorem nextId_after (calls : List Call) : (after calls).nextId = numbered (sets calls) := by
  induction calls with
  | nil => rfl
  | cons call past ih =>
    cases call with
    | set kind policy modifiers =>
      change max ((after past).nextId + 1) 1 = numbered (sets past + 1)
      rw [ih, max_numbered_add_one]
    | clear kind id =>
      refine Eq.trans ?_ ih
      change ((after past).clear kind id).2.nextId = _
      unfold clear
      split <;> rfl
    | _ => exact ih

/-- A request is set under the next number, and only that entry changes. -/
theorem getElem?_set (t : RequestTable) (kind : EventKind) (policy : SuspendPolicy)
    (modifiers : List Modifier) (id : Int32) :
    (t.set kind policy modifiers).2.byId[id]? =
      if t.nextId = id then some (Request.new id kind policy modifiers) else t.byId[id]? := by
  simp only [set, Std.TreeMap.getElem?_insert, Std.compare_eq_iff_eq]
  split
  · next heq => rw [heq]
  · rfl

/-- What is installed was so before the call, or is set by it. -/
theorem mem_of_mem_perform (h : id ∈ (t.perform call).byId) :
    id ∈ t.byId ∨ ∃ kind policy modifiers, call = .set kind policy modifiers ∧ t.nextId = id := by
  cases call with
  | set kind policy modifiers =>
    obtain heq | hold := Std.TreeMap.mem_insert.mp h
    · exact Or.inr ⟨kind, policy, modifiers, rfl, Std.LawfulEqOrd.eq_of_compare heq⟩
    · exact Or.inl hold
  | clear kind id' =>
    refine Or.inl ?_
    change id ∈ (t.clear kind id').2.byId at h
    unfold clear at h
    split at h
    · exact Std.TreeMap.mem_of_mem_erase h
    · exact h
  | clearBreakpoints => exact Or.inl (Std.TreeMap.mem_of_mem_filter h)
  | clearAll => exact absurd h Std.TreeMap.not_mem_emptyc
  | ask s => exact Or.inl (Std.TreeMap.mem_map.mp h)

/-- No call puts a request under a number that is not its own. -/
theorem Keyed.perform (h : t.Keyed) (call : Call) : (t.perform call).Keyed := by
  cases call with
  | set kind policy modifiers => exact h.edit (.set kind policy modifiers)
  | clear kind id => exact h.edit (.clear kind id)
  | clearBreakpoints => exact h.edit .clearBreakpoints
  | clearAll => exact h.edit .clearAll
  | ask s => exact h.of_asked (getElem?_hits s s.kind)

theorem keyed_after (calls : List Call) : (after calls).Keyed := by
  induction calls with
  | nil => exact tidy_empty.keyed
  | cons call past ih => exact ih.perform call

/-! ## Numbers in use -/

/-- The number was in use at every moment from some calls on. -/
def Kept (id : Int32) (first calls : List Call) : Prop :=
  ∀ past, first <:+ past → past <:+ calls → id ∈ (after past).byId

theorem kept_self (h : id ∈ (after calls).byId) : Kept id calls calls := by
  intro past hfirst hpast
  obtain rfl := hfirst.sublist.antisymm hpast.sublist
  exact h

theorem Kept.cons {first : List Call} (h : Kept id first calls)
    (hnow : id ∈ (after (call :: calls)).byId) : Kept id first (call :: calls) := by
  intro past hfirst hpast
  obtain rfl | hold := List.suffix_cons_iff.mp hpast
  · exact hnow
  · exact h past hfirst hold

/-- **A number in use** was taken by a request that is still there, and not all numbers were used
since. -/
theorem set_of_mem (h : id ∈ (after calls).byId) :
    ∃ later kind policy modifiers before, calls = later ++ .set kind policy modifiers :: before ∧
      numbered (sets before) = id ∧ sets later < 2147483647 ∧
      Kept id (.set kind policy modifiers :: before) calls := by
  induction calls with
  | nil => exact absurd h Std.TreeMap.not_mem_emptyc
  | cons call past ih =>
    by_cases hset : ∃ kind policy modifiers,
        call = .set kind policy modifiers ∧ (after past).nextId = id
    · obtain ⟨kind, policy, modifiers, rfl, hid⟩ := hset
      rw [nextId_after] at hid
      exact ⟨[], kind, policy, modifiers, past, rfl, hid, by decide, kept_self h⟩
    · obtain hold | hnew := mem_of_mem_perform h
      · obtain ⟨later, kind, policy, modifiers, before, rfl, hid, hlater, hkept⟩ := ih hold
        refine ⟨call :: later, kind, policy, modifiers, before, rfl, hid, ?_, hkept.cons h⟩
        cases call with
        | set kind' policy' modifiers' =>
          -- Had all the other numbers been used since, this request would have got the number.
          have hother : numbered (sets later + (sets before + 1)) ≠ id := by
            intro heq
            refine hset ⟨kind', policy', modifiers', rfl, ?_⟩
            rw [nextId_after, sets_append]
            exact heq
          rw [← hid, Ne, numbered_eq_iff] at hother
          change sets later + 1 < 2147483647
          omega
        | _ => exact hlater
      · exact absurd hnew hset

/-- The next number is in use exactly if it was used last when all the others were used since, and
its request is still there. -/
theorem nextId_mem_iff :
    (after calls).nextId ∈ (after calls).byId ↔
      ∃ later kind policy modifiers before, calls = later ++ .set kind policy modifiers :: before ∧
        sets later = 2147483646 ∧
        Kept (after calls).nextId (.set kind policy modifiers :: before) calls := by
  constructor
  · intro h
    obtain ⟨later, kind, policy, modifiers, before, hcalls, hid, hlater, hkept⟩ := set_of_mem h
    refine ⟨later, kind, policy, modifiers, before, hcalls, ?_, hkept⟩
    have hsets : sets calls = sets later + (sets before + 1) := by rw [hcalls, sets_append]; rfl
    rw [nextId_after, numbered_eq_iff] at hid
    omega
  · rintro ⟨later, kind, policy, modifiers, before, hcalls, -, hkept⟩
    exact hkept calls ⟨later, hcalls.symm⟩ List.suffix_rfl

/-- A number is free until all of them were used. -/
theorem nextId_not_mem (hfew : sets calls < 2147483647) :
    (after calls).nextId ∉ (after calls).byId := by
  intro hmem
  obtain ⟨later, kind, policy, modifiers, before, rfl, hlater, -⟩ := nextId_mem_iff.mp hmem
  have hsets : sets (later ++ .set kind policy modifiers :: before) =
      sets later + (sets before + 1) := sets_append _ _
  omega

/-! ## One more request -/

/-- What setting one more request returns and leaves. -/
structure Numbered (calls : List Call) (kind : EventKind) (policy : SuspendPolicy)
    (modifiers : List Modifier) (made : Int32 × RequestTable) : Prop where
  positive : 0 < made.1
  /-- The new request is there under its number. -/
  installed : made.2.byId[made.1]? = some (Request.new made.1 kind policy modifiers)
  /-- All others are as they were. -/
  others : ∀ id, id ≠ made.1 → made.2.byId[id]? = (after calls).byId[id]?
  keyed : made.2.Keyed
  /-- The number was in use exactly if it came round: a request got it that was kept while all the
  other numbers were given away. -/
  mem_iff : made.1 ∈ (after calls).byId ↔
    ∃ later kind policy modifiers before, calls = later ++ .set kind policy modifiers :: before ∧
      sets later = 2147483646 ∧ Kept made.1 (.set kind policy modifiers :: before) calls
  /-- So it was free if the numbers did not run out yet. -/
  free : sets calls < 2147483647 → made.1 ∉ (after calls).byId

/-- **One more request**, after any calls. -/
theorem numbered_of_calls (calls : List Call) (kind : EventKind) (policy : SuspendPolicy)
    (modifiers : List Modifier) :
    Numbered calls kind policy modifiers ((after calls).set kind policy modifiers) where
  positive := by
    change 0 < (after calls).nextId
    rw [nextId_after]
    exact numbered_pos (sets calls)
  installed := by rw [getElem?_set]; exact if_pos rfl
  others id hid := by rw [getElem?_set]; exact if_neg (Ne.symm hid)
  keyed := (keyed_after calls).perform (.set kind policy modifiers)
  mem_iff := nextId_mem_iff
  free := nextId_not_mem

/-- A breakpoint, and so many requests that were set after it. -/
def crowded (n : Nat) : List Call :=
  List.replicate n (.set .singleStep .none []) ++ [.set .breakpoint .all [.count 5]]

theorem sets_crowded (n : Nat) : sets (crowded n) = n + 1 := by
  induction n with
  | zero => rfl
  | succ n ih => exact congrArg (· + 1) ih

/-- The breakpoint is kept until the numbers start over. -/
theorem breakpoint_of_crowded {n : Nat} (hn : n ≤ 2147483646) :
    (after (crowded n)).byId[(1 : Int32)]? = some (Request.new 1 .breakpoint .all [.count 5]) := by
  induction n with
  | zero => rfl
  | succ n ih =>
    have hother : (after (crowded n)).nextId ≠ 1 := by
      rw [nextId_after, sets_crowded]
      change numbered (n + 1) ≠ numbered 0
      rw [Ne, numbered_eq_iff]
      omega
    change ((after (crowded n)).set .singleStep .none []).2.byId[(1 : Int32)]? = _
    rw [getElem?_set, if_neg hother]
    exact ih (Nat.le_of_succ_le hn)

/-- **A breakpoint is lost.**  It is installed when the numbers start over, and the next request
gets its number and takes its place. -/
theorem overwritten :
    (after (crowded 2147483646)).byId[(1 : Int32)]? =
        some (Request.new 1 .breakpoint .all [.count 5]) ∧
      ((after (crowded 2147483646)).set .methodEntry .none []).1 = 1 ∧
      ((after (crowded 2147483646)).set .methodEntry .none []).2.byId[(1 : Int32)]? =
        some (Request.new 1 .methodEntry .none []) := by
  have hnext : (after (crowded 2147483646)).nextId = 1 := by
    rw [nextId_after, sets_crowded]
    exact numbered_eq_iff.mpr rfl
  refine ⟨breakpoint_of_crowded (Nat.le_refl _), hnext, ?_⟩
  rw [getElem?_set, if_pos hnext]

/-! ## Tables of a session -/

/-- The table is what these calls leave, but for the serials that were taken. -/
def ComesOf (t : RequestTable) (calls : List Call) : Prop :=
  ∃ serial, t = { after calls with nextSerial := serial }

theorem comesOf_empty : empty.ComesOf [] := ⟨1, rfl⟩

namespace ComesOf

theorem perform (h : t.ComesOf calls) (call : Call) :
    (t.perform call).ComesOf (call :: calls) := by
  obtain ⟨serial, rfl⟩ := h
  refine ⟨serial, ?_⟩
  cases call with
  | clear kind id =>
    simp only [RequestTable.perform, after, clear]
    split <;> rfl
  | _ => rfl

theorem takeSerial (h : t.ComesOf calls) : t.takeSerial.2.ComesOf calls := by
  obtain ⟨serial, rfl⟩ := h
  exact ⟨serial + 1, rfl⟩

/-- An edit sets one request at most. -/
theorem edit (h : t.ComesOf calls) {t' : RequestTable} (hedit : t.Edit t') :
    ∃ new, sets new ≤ 1 ∧ t'.ComesOf (new ++ calls) := by
  cases hedit with
  | kept => exact ⟨[], Nat.zero_le _, h⟩
  | set kind policy modifiers =>
    exact ⟨[.set kind policy modifiers], Nat.le_refl _, h.perform (.set kind policy modifiers)⟩
  | clear kind id => exact ⟨[.clear kind id], Nat.zero_le _, h.perform (.clear kind id)⟩
  | clearBreakpoints => exact ⟨[.clearBreakpoints], Nat.zero_le _, h.perform .clearBreakpoints⟩
  | clearAll => exact ⟨[.clearAll], Nat.zero_le _, h.perform .clearAll⟩

/-- To ask sets none. -/
theorem hitsOf (h : t.ComesOf calls) (s : Sighting) (kinds : List EventKind) :
    ∃ asks, sets asks = 0 ∧ (t.hitsOf s kinds).2.ComesOf (asks ++ calls) := by
  induction kinds generalizing t calls with
  | nil => exact ⟨[], rfl, h⟩
  | cons kind kinds ih =>
    obtain ⟨asks, hasks, hcomes⟩ := ih (h.perform (.ask { s with kind := kind }))
    refine ⟨asks ++ [.ask { s with kind := kind }], ?_, ?_⟩
    · rw [sets_append, hasks]
      rfl
    · rw [List.append_assoc]
      exact hcomes

theorem nextId (h : t.ComesOf calls) : t.nextId = numbered (sets calls) := by
  obtain ⟨serial, rfl⟩ := h
  exact nextId_after calls

theorem nextId_not_mem (h : t.ComesOf calls) (hfew : sets calls < 2147483647) :
    t.nextId ∉ t.byId := by
  obtain ⟨serial, rfl⟩ := h
  exact RequestTable.nextId_not_mem hfew

end ComesOf
end DebugWire.RequestTable

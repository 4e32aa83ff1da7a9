import DebugWire.Proofs.Target.InMemory
import DebugWire.Target.Supertypes
import Mathlib.Data.List.Perm.Subperm

/-!
# Proofs/Target/Supertypes — the walk ends, with every supertype in its place

The walk lists types and asks the target for the supertypes of each in turn.  What it has listed is
always the type that it started from and the supertypes of those that it asked for, each where it
appears first (`Walked`).  Every type is asked for once, so there are no more rounds than loaded
types, and one more (`Walked.done_le_size`): the walk ends with all that lies above its start, the
nearest first (`BreadthFirst`), or at a type that is not loaded (`walks_of_alive`).
-/

namespace DebugWire

/-! ## First appearances -/

section FirstAppearances

variable {α : Type} [BEq α] [LawfulBEq α]

theorem nodup_eraseDups : ∀ as : List α, as.eraseDups.Nodup
  | [] => List.nodup_nil
  | a :: as => by
      rw [List.eraseDups_cons, List.nodup_cons]
      refine ⟨fun hmem => ?_, nodup_eraseDups (as.filter fun b => !b == a)⟩
      simp at hmem
termination_by as => as.length
decreasing_by exact Nat.lt_succ_of_le (List.length_filter_le _ _)

theorem eraseDups_of_nodup {as : List α} (h : as.Nodup) : as.eraseDups = as := by
  induction as with
  | nil => rfl
  | cons a as ih =>
    obtain ⟨hnot, hrest⟩ := List.nodup_cons.mp h
    have hfilter : as.filter (fun b => !b == a) = as := by
      rw [List.filter_eq_self]
      intro b hb
      simpa using fun hba : b = a => hnot (hba ▸ hb)
    rw [List.eraseDups_cons, hfilter, ih hrest]

/-- What was left out in front does not matter behind. -/
theorem eraseDups_eraseDups_append (as bs : List α) :
    (as.eraseDups ++ bs).eraseDups = (as ++ bs).eraseDups := by
  rw [List.eraseDups_append, List.eraseDups_append, eraseDups_of_nodup (nodup_eraseDups as)]
  congr 2
  refine List.filter_congr fun b _ => ?_
  rw [Bool.eq_iff_iff]
  simp

end FirstAppearances

/-- Adding types appends those that are new, each once. -/
theorem Found.types_addAll (f : Found) (types : List Handle) :
    (f.addAll types).types = (f.types ++ types).eraseDups := by
  induction types generalizing f with
  | nil => rw [List.append_nil, eraseDups_of_nodup f.nodup]; rfl
  | cons type types ih =>
    have hadd : (f.add type).types = (f.types ++ [type]).eraseDups := by
      rw [List.eraseDups_append, eraseDups_of_nodup f.nodup, Found.add]
      split
      · next hold => simp [List.removeAll, hold]
      · next hnew => simp [List.removeAll, hnew, eraseDups_of_nodup]
    rw [Found.addAll, List.foldl_cons]
    exact (ih (f.add type)).trans (by rw [hadd, eraseDups_eraseDups_append, List.append_assoc]; rfl)

/-- The types that were there stay in front. -/
theorem Found.prefix_addAll (f : Found) (types : List Handle) :
    f.types <+: (f.addAll types).types := by
  rw [types_addAll, List.eraseDups_append, eraseDups_of_nodup f.nodup]
  exact List.prefix_append _ _

theorem Found.take_addAll {f : Found} {n : Nat} (h : n < f.types.length) (types : List Handle) :
    (f.addAll types).types.take (n + 1) = f.types.take (n + 1) := by
  obtain ⟨rest, hrest⟩ := f.prefix_addAll types
  rw [← hrest, List.take_append_of_le_length h]

namespace InMemory

variable {t : InMemory} {type : Handle}

/-! ## What lies above a type -/

/-- The superclass of a type, then its interfaces.  A type that is not loaded has none. -/
def directSupertypes (t : InMemory) (type : Handle) : List Handle :=
  match t.types[type]? with
  | some l => l.facts.superclass.toList ++ l.facts.interfaces
  | none => []

/-- A type lies so many steps above another. -/
inductive Above (t : InMemory) (type : Handle) : Nat → Handle → Prop where
  | self : Above t type 0 type
  | step {n : Nat} {a b : Handle} (h : Above t type n a) (hb : b ∈ t.directSupertypes a) :
      Above t type (n + 1) b

/-- The type and all that lies above it, breadth first. -/
structure BreadthFirst (t : InMemory) (type : Handle) (l : List Handle) : Prop where
  head : l.head? = some type
  nodup : l.Nodup
  mem : ∀ a, a ∈ l ↔ ∃ n, t.Above type n a
  /-- Nothing stands in front of what is nearer. -/
  nearest : l.Pairwise fun a b => ∀ n, t.Above type n b → ∃ m ≤ n, t.Above type m a
  /-- Each type of the list in turn brings its superclass and then its interfaces, but for those
  that are there already. -/
  order : l = (type :: l.flatMap t.directSupertypes).eraseDups

/-- What is above a type that stands in the list of its own supertypes is in the list. -/
theorem mem_of_above {l : List Handle}
    (horder : l = (type :: l.flatMap t.directSupertypes).eraseDups) {n : Nat} {a : Handle}
    (h : t.Above type n a) : a ∈ l := by
  induction h with
  | self =>
    rw [horder, List.mem_eraseDups]
    exact List.mem_cons_self
  | step _ hb ih =>
    rw [horder, List.mem_eraseDups]
    exact List.mem_cons_of_mem _ (List.mem_flatMap_of_mem ih hb)

/-- What is at most so far away stands in front. -/
theorem exists_take_of_order {l : List Handle}
    (horder : l = (type :: l.flatMap t.directSupertypes).eraseDups) (n : Nat) :
    ∃ k, ∀ a, a ∈ l.take k ↔ ∃ m ≤ n, t.Above type m a := by
  induction n with
  | zero =>
    refine ⟨1, fun a => ?_⟩
    have htake : l.take 1 = [type] := by
      rw [horder, List.eraseDups_cons, List.take_succ_cons, List.take_zero]
    rw [htake, List.mem_singleton]
    constructor
    · rintro rfl
      exact ⟨0, Nat.le_refl 0, .self⟩
    · rintro ⟨m, hm, habove⟩
      obtain rfl := Nat.le_zero.mp hm
      cases habove
      rfl
  | succ n ih =>
    obtain ⟨k, hk⟩ := ih
    -- the supertypes of a front part are listed in front
    have hfront : (type :: (l.take k).flatMap t.directSupertypes).eraseDups <+: l := by
      refine ⟨(((l.drop k).flatMap t.directSupertypes).removeAll
        (type :: (l.take k).flatMap t.directSupertypes)).eraseDups, ?_⟩
      rw [← List.eraseDups_append, List.cons_append, ← List.flatMap_append, List.take_append_drop]
      exact horder.symm
    refine ⟨(type :: (l.take k).flatMap t.directSupertypes).eraseDups.length, fun a => ?_⟩
    rw [← List.prefix_iff_eq_take.mp hfront, List.mem_eraseDups, List.mem_cons, List.mem_flatMap]
    constructor
    · rintro (rfl | ⟨b, hb, ha⟩)
      · exact ⟨0, Nat.zero_le _, .self⟩
      · obtain ⟨m, hm, habove⟩ := (hk b).mp hb
        exact ⟨m + 1, Nat.succ_le_succ hm, habove.step ha⟩
    · rintro ⟨m, hm, habove⟩
      cases habove with
      | self => exact Or.inl rfl
      | step habove ha => exact Or.inr ⟨_, (hk _).mpr ⟨_, Nat.le_of_succ_le_succ hm, habove⟩, ha⟩

/-- **Who lists the supertypes of a list behind its start lists them breadth first.** -/
theorem breadthFirst_of_order {l : List Handle}
    (horder : l = (type :: l.flatMap t.directSupertypes).eraseDups)
    (habove : ∀ a ∈ l, ∃ n, t.Above type n a) : t.BreadthFirst type l where
  head := by rw [horder, List.eraseDups_cons, List.head?_cons]
  nodup := horder ▸ nodup_eraseDups _
  mem a := ⟨habove a, fun ⟨_, h⟩ => mem_of_above horder h⟩
  nearest := by
    have hnodup : l.Nodup := horder ▸ nodup_eraseDups _
    rw [List.pairwise_iff_getElem]
    intro i j hi hj hij n hn
    obtain ⟨k, hk⟩ := exists_take_of_order horder n
    obtain ⟨j', hj', hsame⟩ := List.mem_take_iff_getElem.mp ((hk l[j]).mpr ⟨n, Nat.le_refl n, hn⟩)
    obtain rfl : j' = j := (List.getElem_inj hnodup).mp hsame
    refine (hk l[i]).mp (List.mem_take_iff_getElem.mpr ⟨i, ?_, rfl⟩)
    omega
  order := horder

/-! ## The walk -/

section Rounds

variable {σ : Type} [Target σ]

/-- The walk from the `done`-th type on, given up after some rounds. -/
def supertypesWithin : Nat → Found → Nat → TargetCall σ (Option (List Handle))
  | 0, _, _ => return none
  | rounds + 1, f, done =>
      match f.types[done]? with
      | none => return some f.types
      | some type => do
          let facts ← Target.typeFacts type
          supertypesWithin rounds (f.addAll facts.supertypes) (done + 1)

end Rounds

/-- What a walk has listed when it asked for the supertypes of `done` types. -/
structure Walked (t : InMemory) (type : Handle) (f : Found) (done : Nat) : Prop where
  done_le : done ≤ f.types.length
  loaded : ∀ a ∈ f.types.take done, a ∈ t.types
  above : ∀ a ∈ f.types, ∃ n, t.Above type n a
  order : f.types = (type :: (f.types.take done).flatMap t.directSupertypes).eraseDups

theorem walked_start : t.Walked type (.start type) 0 where
  done_le := Nat.zero_le _
  loaded a ha := absurd ha List.not_mem_nil
  above a ha := by
    obtain rfl := List.mem_singleton.mp ha
    exact ⟨0, .self⟩
  order := (eraseDups_of_nodup (Found.start type).nodup).symm

namespace Walked

variable {f : Found} {done : Nat}

/-- **Every type is asked for once**, so there are no more rounds than loaded types. -/
theorem done_le_size (h : t.Walked type f done) : done ≤ t.types.size := by
  have hsub : f.types.take done ⊆ t.types.keys :=
    fun a ha => Std.TreeMap.mem_keys.mpr (h.loaded a ha)
  have hle := ((f.nodup.sublist (List.take_sublist done f.types)).subperm hsub).length_le
  rwa [List.length_take, Nat.min_eq_left h.done_le, Std.TreeMap.length_keys] at hle

/-- **One round:** the next type brings its supertypes. -/
theorem next (h : t.Walked type f done) {a : Handle} (ha : f.types[done]? = some a)
    {l : LoadedType} (hl : t.types[a]? = some l) :
    t.Walked type (f.addAll l.facts.supertypes) (done + 1) := by
  obtain ⟨hlt, hget⟩ := List.getElem?_eq_some_iff.mp ha
  have hsuper : t.directSupertypes a = l.facts.supertypes := by rw [directSupertypes, hl]; rfl
  have htake : f.types.take (done + 1) = f.types.take done ++ [a] := by
    rw [List.take_succ_eq_append_getElem hlt, hget]
  have hsame := Found.take_addAll hlt l.facts.supertypes
  have hle := (f.prefix_addAll l.facts.supertypes).length_le
  refine ⟨Nat.le_trans hlt hle, fun b hb => ?_, fun b hb => ?_, ?_⟩
  · rw [hsame, htake, List.mem_append, List.mem_singleton] at hb
    obtain hb | rfl := hb
    · exact h.loaded b hb
    · exact Std.TreeMap.mem_iff_isSome_getElem?.mpr (by rw [hl]; rfl)
  · rw [Found.types_addAll, List.mem_eraseDups, List.mem_append] at hb
    obtain hb | hb := hb
    · exact h.above b hb
    · obtain ⟨n, hn⟩ := h.above a (List.mem_of_getElem? ha)
      exact ⟨n + 1, hn.step (hsuper ▸ hb)⟩
  · rw [hsame, htake, List.flatMap_append, List.flatMap_singleton, hsuper, ← List.cons_append,
      ← eraseDups_eraseDups_append, ← h.order, Found.types_addAll]

/-- A walk that asked for all that it listed listed everything, breadth first. -/
theorem breadthFirst (h : t.Walked type f done) (hall : f.types[done]? = none) :
    t.BreadthFirst type f.types := by
  have horder := h.order
  rw [List.take_of_length_le (List.getElem?_eq_none_iff.mp hall)] at horder
  exact breadthFirst_of_order horder h.above

end Walked

/-- How a walk ends: with all that lies above its start, all of it loaded, or at a type that is not
loaded. -/
inductive Ends (t : InMemory) (type : Handle) : Except TargetError (List Handle) → Prop where
  | listed {l : List Handle} (hl : t.BreadthFirst type l) (hloaded : ∀ a ∈ l, a ∈ t.types) :
      Ends t type (.ok l)
  | refused {n : Nat} {a : Handle} (habove : t.Above type n a) (hmissing : a ∉ t.types) :
      Ends t type (.error (.reported .invalidClass))

theorem run_typeFacts (halive : t.alive = true) (hfault : t.fault = none) (a : Handle) :
    Attempt.run (Target.typeFacts a) t =
      ((t.types[a]?).elim (.error (.reported .invalidClass)) fun l => .ok l.facts, t) := by
  refine (run_lookUp hfault _ _).trans ?_
  rw [if_pos halive]
  cases t.types[a]? <;> rfl

/-- **Enough rounds are as good as no limit**, and the walk ends within them. -/
theorem exists_run_of_walked (halive : t.alive = true) (hfault : t.fault = none) {rounds : Nat}
    {f : Found} {done : Nat} (h : t.Walked type f done) (hrounds : t.types.size < rounds + done) :
    ∃ x, t.Ends type x ∧ Attempt.run (supertypesFrom f done) t = (x, t) ∧
      Attempt.run (supertypesWithin rounds f done) t = (x.map some, t) := by
  -- the rounds that are left make up for the types that were asked for
  induction rounds generalizing f done with
  | zero =>
    have := h.done_le_size
    omega
  | succ rounds ih =>
    rw [supertypesFrom, supertypesWithin]
    cases ha : f.types[done]? with
    | none =>
      refine ⟨.ok f.types, .listed (h.breadthFirst ha) ?_, rfl, rfl⟩
      have hloaded := h.loaded
      rwa [List.take_of_length_le (List.getElem?_eq_none_iff.mp ha)] at hloaded
    | some a =>
      have hfacts := run_typeFacts halive hfault a
      cases hl : t.types[a]? with
      | none =>
        obtain ⟨n, hn⟩ := h.above a (List.mem_of_getElem? ha)
        have hmissing : a ∉ t.types := by
          rw [Std.TreeMap.mem_iff_isSome_getElem?, hl]
          exact Bool.false_ne_true
        rw [hl] at hfacts
        exact ⟨_, .refused hn hmissing, Attempt.run_bind_of_error hfacts _,
          Attempt.run_bind_of_error hfacts _⟩
      | some l =>
        rw [hl] at hfacts
        obtain ⟨x, hx, hfrom, hwithin⟩ := ih (h.next ha hl) (by omega)
        exact ⟨x, hx, (Attempt.run_bind_of_ok hfacts _).trans hfrom,
          (Attempt.run_bind_of_ok hfacts _).trans hwithin⟩

/-- What becomes of a walk. -/
structure Walks (t : InMemory) (type : Handle) : Prop where
  /-- If all that lies above the type is loaded, it is listed. -/
  listed : (∀ n a, t.Above type n a → a ∈ t.types) →
    ∃ l, Attempt.run (supertypes type) t = (.ok l, t) ∧ t.BreadthFirst type l
  /-- If something is not, there is no such class. -/
  refused : ∀ n a, t.Above type n a → a ∉ t.types →
    Attempt.run (supertypes type) t = (.error (.reported .invalidClass), t)
  /-- There are no more rounds than loaded types, and one more. -/
  rounds : ∀ n, t.types.size < n →
    Attempt.run (supertypesWithin n (.start type) 0) t = Attempt.run (some <$> supertypes type) t

/-- **Every walk ends**, whatever is above what: with the type and all its supertypes, breadth
first, or at one that is not loaded. -/
theorem walks_of_alive (t : InMemory) (type : Handle) (halive : t.alive = true)
    (hfault : t.fault = none) : t.Walks type := by
  have hrun (n : Nat) (hn : t.types.size < n) : ∃ x, t.Ends type x ∧
      Attempt.run (supertypes type) t = (x, t) ∧
      Attempt.run (supertypesWithin n (.start type) 0) t = (x.map some, t) :=
    exists_run_of_walked halive hfault walked_start hn
  obtain ⟨x, hx, hwalk, -⟩ := hrun _ (Nat.lt_succ_self _)
  refine ⟨fun hall => ?_, fun n a habove hmissing => ?_, fun n hn => ?_⟩
  · cases hx with
    | listed hl _ => exact ⟨_, hwalk, hl⟩
    | refused habove hmissing => exact absurd (hall _ _ habove) hmissing
  · cases hx with
    | listed hl hloaded => exact absurd (hloaded a ((hl.mem a).mpr ⟨n, habove⟩)) hmissing
    | refused => exact hwalk
  · obtain ⟨y, -, hwalk', hwithin⟩ := hrun n hn
    obtain rfl : y = x := congrArg Prod.fst (hwalk'.symm.trans hwalk)
    rw [Attempt.run_map, hwalk]
    exact hwithin

/-- A class over another, an interface of both that comes back to the first, and that one an
interface of its own. -/
def knot : InMemory :=
  let build : StateM InMemory Unit := do
    let _root ← addClass rootSignature
    let shape ← addInterface "LShape;"
    let base ← addClass "LBase;"
    let leaf ← addClass "LLeaf;"
    modify (setSuperclass leaf (some base))
    modify (addInterfaceTo base shape)
    modify (addInterfaceTo leaf shape)
    modify (addInterfaceTo leaf leaf)
    modify (addInterfaceTo shape leaf)
  (build.run .new).2

/-- The knot is walked through, and without its root it is not. -/
theorem walks_knot :
    (Attempt.run (supertypes ⟨4⟩) knot).1 = .ok [⟨4⟩, ⟨3⟩, ⟨2⟩, ⟨1⟩] ∧
    knot.BreadthFirst ⟨4⟩ [⟨4⟩, ⟨3⟩, ⟨2⟩, ⟨1⟩] ∧
    (Attempt.run (supertypes ⟨4⟩) (knot.collect ⟨1⟩)).1 = .error (.reported .invalidClass) := by
  have hknot := walks_of_alive knot ⟨4⟩ rfl rfl
  have htorn := walks_of_alive (knot.collect ⟨1⟩) ⟨4⟩ rfl rfl
  have hrounds : (Attempt.run (supertypesWithin 5 (.start ⟨4⟩) 0) knot).1 =
      .ok (some [⟨4⟩, ⟨3⟩, ⟨2⟩, ⟨1⟩]) := rfl
  rw [hknot.rounds 5 (by decide), Attempt.run_map] at hrounds
  have hloaded (n : Nat) (a : Handle) (habove : knot.Above ⟨4⟩ n a) : a ∈ knot.types := by
    refine Decidable.byContradiction fun hmissing => ?_
    rw [hknot.refused n a habove hmissing] at hrounds
    cases hrounds
  obtain ⟨l, hl, hbreadth⟩ := hknot.listed hloaded
  rw [hl] at hrounds ⊢
  cases hrounds
  have hroot : (knot.collect ⟨1⟩).Above ⟨4⟩ 2 ⟨1⟩ :=
    .step (.step .self (b := ⟨3⟩) (by decide)) (by decide)
  rw [htorn.refused 2 ⟨1⟩ hroot (by decide)]
  exact ⟨rfl, hbreadth, rfl⟩

end InMemory
end DebugWire

import Mathlib.Data.List.Infix
import DebugWire.Event.Pattern

/-!
# Proofs/Event/Pattern — what a class pattern means

A text is read as a glob character by character: a star that is wild stands for any text, every
other character for itself (`Glyph.ofPattern`, `Glyph.Cover`).  `ClassPattern.parse` takes the star
at the end for wild, and the one at the start only if there is none at the end
(`ClassPattern.atOneEnd`).  So a pattern accepts no more than the glob whose stars are wild at both
ends, and exactly that glob unless there are two of them: `*Service*` asks for names that begin
with `*Service`.
-/

namespace DebugWire

/-! ## Globs -/

/-- What a character of a glob stands for. -/
inductive Glyph where
  | itself (c : Char)
  | anything
deriving DecidableEq, Repr

namespace Glyph

/-- The texts that a glob covers. -/
def Cover : List Glyph → List Char → Prop
  | [], text => text = []
  | itself c :: glyphs, text => ∃ rest, text = c :: rest ∧ Cover glyphs rest
  | anything :: glyphs, text => ∃ gap rest, text = gap ++ rest ∧ Cover glyphs rest

/-- The glob that a text spells, if its stars are wild at the given places. -/
def ofPattern (wild : Nat → Bool) (pattern : List Char) : List Glyph :=
  pattern.mapIdx fun i c => if c = '*' ∧ wild i = true then anything else itself c

variable {glyphs : List Glyph} {wild : Nat → Bool} {text middle : List Char} {c : Char}

theorem cover_itself_append :
    Cover (middle.map itself ++ glyphs) text ↔
      ∃ rest, text = middle ++ rest ∧ Cover glyphs rest := by
  induction middle generalizing text with
  | nil => simp
  | cons c middle ih =>
    rw [List.map_cons, List.cons_append, Cover]
    constructor
    · rintro ⟨_, rfl, htail⟩
      obtain ⟨rest, rfl, hrest⟩ := ih.mp htail
      exact ⟨rest, rfl, hrest⟩
    · rintro ⟨rest, rfl, hrest⟩
      exact ⟨middle ++ rest, rfl, ih.mpr ⟨rest, rfl, hrest⟩⟩

/-- Characters that stand for themselves cover one text. -/
theorem cover_itself : Cover (middle.map itself) text ↔ text = middle := by
  have happend : Cover (middle.map itself ++ []) text ↔ _ := cover_itself_append
  rw [List.append_nil] at happend
  refine happend.trans ⟨?_, fun htext => ⟨[], by rw [htext, List.append_nil], rfl⟩⟩
  rintro ⟨_, htext, rfl⟩
  rw [htext, List.append_nil]

theorem cover_anything : Cover [anything] text :=
  ⟨text, [], (List.append_nil text).symm, rfl⟩

/-- A text with a gap behind it covers what begins with it. -/
theorem cover_itself_anything :
    Cover (middle.map itself ++ [anything]) text ↔ middle <+: text := by
  rw [cover_itself_append]
  constructor
  · rintro ⟨rest, rfl, -⟩
    exact List.prefix_append middle rest
  · rintro ⟨rest, rfl⟩
    exact ⟨rest, rfl, cover_anything⟩

/-- A text with a gap before it covers what ends with it. -/
theorem cover_anything_itself :
    Cover (anything :: middle.map itself) text ↔ middle <:+ text := by
  constructor
  · rintro ⟨gap, rest, rfl, hrest⟩
    rw [cover_itself.mp hrest]
    exact List.suffix_append gap middle
  · rintro ⟨gap, rfl⟩
    exact ⟨gap, middle, rfl, cover_itself.mpr rfl⟩

/-- A text between two gaps covers what contains it. -/
theorem cover_anything_itself_anything :
    Cover (anything :: (middle.map itself ++ [anything])) text ↔ middle <:+: text := by
  constructor
  · rintro ⟨gap, rest, rfl, hrest⟩
    exact (cover_itself_anything.mp hrest).isInfix.trans (List.suffix_append gap rest).isInfix
  · rintro ⟨gap, rest, rfl⟩
    exact ⟨gap, middle ++ rest, List.append_assoc .., cover_itself_anything.mpr (by simp)⟩

/-! ## Reading a text as a glob -/

/-- Where no star is wild, every character stands for itself. -/
theorem ofPattern_eq_itself
    (h : ∀ i, wild i = true → text[i]? ≠ some '*') : ofPattern wild text = text.map itself := by
  refine List.ext_getElem? fun i => ?_
  rw [ofPattern, List.getElem?_mapIdx, List.getElem?_map]
  cases hc : text[i]? with
  | none => rfl
  | some c =>
    have hnot : ¬(c = '*' ∧ wild i = true) := fun hstar => h i hstar.2 (hstar.1 ▸ hc)
    rw [Option.map_some, Option.map_some, if_neg hnot]

theorem ofPattern_cons : ofPattern wild (c :: text)
    = (if c = '*' ∧ wild 0 = true then anything else itself c)
      :: ofPattern (fun i => wild (i + 1)) text :=
  List.mapIdx_cons

theorem ofPattern_star_cons (h : wild 0 = true) :
    ofPattern wild ('*' :: text) = anything :: ofPattern (fun i => wild (i + 1)) text := by
  rw [ofPattern_cons, if_pos ⟨rfl, h⟩]

theorem ofPattern_append_star (h : wild text.length = true) :
    ofPattern wild (text ++ ['*']) = ofPattern wild text ++ [anything] := by
  have hlast : ('*' : Char) = '*' ∧ wild (0 + text.length) = true := ⟨rfl, by rwa [Nat.zero_add]⟩
  rw [ofPattern, List.mapIdx_append, List.mapIdx_cons, List.mapIdx_nil, if_pos hlast]
  rfl

end Glyph

namespace ClassPattern

open Glyph

/-! ## The two readings -/

/-- The first and the last character of a pattern. -/
def atEnds (pattern : List Char) (i : Nat) : Bool :=
  i = 0 ∨ i + 1 = pattern.length

/-- The last character of a pattern, or the first if the last is no star. -/
def atOneEnd (pattern : List Char) (i : Nat) : Bool :=
  i + 1 = pattern.length ∨ i = 0 ∧ pattern.getLast? ≠ some '*'

/-- A name matches a pattern, if stars are wild at the given places. -/
def Globs (wild : List Char → Nat → Bool) (pattern name : String) : Prop :=
  Cover (ofPattern (wild pattern.toList) pattern.toList) name.toList

variable {pattern name : String} {middle : List Char}

/-- What a pattern can look like: by its two ends. -/
theorem exists_shape (cs : List Char) :
    (∃ middle, cs = middle ++ ['*']) ∨
    (∃ middle, cs = '*' :: middle ∧ cs.getLast? ≠ some '*') ∨
    (cs.head? ≠ some '*' ∧ cs.getLast? ≠ some '*') := by
  by_cases hlast : cs.getLast? = some '*'
  · exact Or.inl ⟨cs.dropLast, (List.dropLast_append_getLast? '*' hlast).symm⟩
  · by_cases hhead : cs.head? = some '*'
    · exact Or.inr (Or.inl ⟨cs.tail, (List.cons_head?_tail hhead).symm, hlast⟩)
    · exact Or.inr (Or.inr ⟨hhead, hlast⟩)

theorem parse_of_star_last (h : pattern.toList = middle ++ ['*']) :
    (parse pattern).accepts name = true ↔ middle <+: name.toList := by
  rw [parse, h]
  by_cases hmiddle : middle = []
  · rw [hmiddle, if_pos (List.nil_append _)]
    exact iff_of_true rfl List.nil_prefix
  · have hne : middle ++ ['*'] ≠ ['*'] := fun heq => hmiddle (List.append_left_eq_self.mp heq)
    rw [if_neg hne, if_pos List.getLast?_concat, List.dropLast_concat, accepts,
      String.toList_ofList]
    exact List.isPrefixOf_iff_prefix

theorem parse_of_star_first (h : pattern.toList = '*' :: middle)
    (hlast : pattern.toList.getLast? ≠ some '*') :
    (parse pattern).accepts name = true ↔ middle <:+ name.toList := by
  have hne : pattern.toList ≠ ['*'] := fun heq => hlast (heq ▸ rfl)
  have hhead : pattern.toList.head? = some '*' := by rw [h]; rfl
  rw [parse, if_neg hne, if_neg hlast, if_pos hhead, accepts, String.toList_ofList, h]
  exact List.isSuffixOf_iff_suffix

theorem parse_of_no_star (hhead : pattern.toList.head? ≠ some '*')
    (hlast : pattern.toList.getLast? ≠ some '*') :
    (parse pattern).accepts name = true ↔ name.toList = pattern.toList := by
  have hne : pattern.toList ≠ ['*'] := fun heq => hlast (heq ▸ rfl)
  rw [parse, if_neg hne, if_neg hlast, if_neg hhead, accepts, decide_eq_true_iff,
    String.toList_inj]

/-! ## What is read as what -/

variable {cs : List Char}

theorem not_atOneEnd_of_star_last {i : Nat} (h : i < middle.length) :
    atOneEnd (middle ++ ['*']) i = false := by
  rw [atOneEnd, decide_eq_false_iff_not, List.length_append, List.length_singleton,
    List.getLast?_concat]
  rintro (hi | ⟨-, hlast⟩)
  · omega
  · exact hlast rfl

/-- Where the last character is a star, it alone is wild. -/
theorem ofPattern_atOneEnd_of_star_last :
    ofPattern (atOneEnd (middle ++ ['*'])) (middle ++ ['*'])
      = middle.map itself ++ [anything] := by
  have hend : atOneEnd (middle ++ ['*']) middle.length = true := by simp [atOneEnd]
  rw [ofPattern_append_star hend, ofPattern_eq_itself]
  intro i hi hstar
  rw [not_atOneEnd_of_star_last (List.getElem?_eq_some_iff.mp hstar).1] at hi
  exact Bool.false_ne_true hi

/-- Where the last character is no star, the two readings are the same. -/
theorem atEnds_eq_atOneEnd (h : cs.getLast? ≠ some '*') : atEnds cs = atOneEnd cs := by
  funext i
  rw [atEnds, atOneEnd, decide_eq_decide, and_iff_left h, or_comm]

/-- Where the first character alone is a star, it alone is wild. -/
theorem ofPattern_atEnds_of_star_first (h : ('*' :: middle).getLast? ≠ some '*') :
    ofPattern (atEnds ('*' :: middle)) ('*' :: middle) = anything :: middle.map itself := by
  have hstart : atEnds ('*' :: middle) 0 = true := by simp [atEnds]
  rw [ofPattern_star_cons hstart, ofPattern_eq_itself]
  intro i hi hstar
  rw [atEnds, decide_eq_true_iff, List.length_cons] at hi
  have hlast : i = middle.length - 1 := by omega
  rw [hlast, ← List.getLast?_eq_getElem?] at hstar
  rw [List.getLast?_cons, hstar] at h
  exact h rfl

/-- Without a star at an end, every character stands for itself. -/
theorem ofPattern_atEnds_of_no_star (hhead : cs.head? ≠ some '*')
    (hlast : cs.getLast? ≠ some '*') : ofPattern (atEnds cs) cs = cs.map itself := by
  refine ofPattern_eq_itself fun i hi => ?_
  rw [atEnds, decide_eq_true_iff] at hi
  obtain rfl | hi := hi
  · rwa [← List.head?_eq_getElem?]
  · rw [List.getLast?_eq_getElem?] at hlast
    rwa [show i = cs.length - 1 by omega]

/-- Where the last character alone is a star, it alone is wild. -/
theorem ofPattern_atEnds_of_star_last (h : middle.head? ≠ some '*') :
    ofPattern (atEnds (middle ++ ['*'])) (middle ++ ['*'])
      = middle.map itself ++ [anything] := by
  have hend : atEnds (middle ++ ['*']) middle.length = true := by simp [atEnds]
  rw [ofPattern_append_star hend, ofPattern_eq_itself]
  intro i hi hstar
  have hlt := (List.getElem?_eq_some_iff.mp hstar).1
  rw [atEnds, decide_eq_true_iff, List.length_append, List.length_singleton] at hi
  have hzero : i = 0 := by omega
  rw [hzero, ← List.head?_eq_getElem?] at hstar
  exact h hstar

/-- Where both ends are stars, both are wild. -/
theorem ofPattern_atEnds_of_stars :
    ofPattern (atEnds ('*' :: (middle ++ ['*']))) ('*' :: (middle ++ ['*']))
      = anything :: (middle.map itself ++ [anything]) := by
  have hstart : atEnds ('*' :: (middle ++ ['*'])) 0 = true := by simp [atEnds]
  have hend : atEnds ('*' :: (middle ++ ['*'])) (middle.length + 1) = true := by simp [atEnds]
  rw [ofPattern_star_cons hstart, ofPattern_append_star hend, ofPattern_eq_itself]
  intro i hi hstar
  have hlt := (List.getElem?_eq_some_iff.mp hstar).1
  rw [atEnds, decide_eq_true_iff, List.length_cons, List.length_append,
    List.length_singleton] at hi
  omega

/-! ## What is accepted -/

/-- A pattern accepts the glob whose star is wild at one end. -/
theorem accepts_iff_atOneEnd :
    (parse pattern).accepts name = true ↔ Globs atOneEnd pattern name := by
  rw [Globs]
  obtain ⟨middle, hshape⟩ | ⟨middle, hshape, hlast⟩ | ⟨hhead, hlast⟩ :=
    exists_shape pattern.toList
  · rw [parse_of_star_last hshape, hshape, ofPattern_atOneEnd_of_star_last]
    exact cover_itself_anything.symm
  · rw [parse_of_star_first hshape hlast, ← atEnds_eq_atOneEnd hlast]
    rw [hshape] at hlast ⊢
    rw [ofPattern_atEnds_of_star_first hlast]
    exact cover_anything_itself.symm
  · rw [parse_of_no_star hhead hlast, ← atEnds_eq_atOneEnd hlast,
      ofPattern_atEnds_of_no_star hhead hlast]
    exact cover_itself.symm

/-- Without a star at either end, or with one at only one of them, it is the glob whose stars are
wild at both. -/
theorem accepts_iff_atEnds (h : ∀ middle, pattern.toList ≠ '*' :: (middle ++ ['*'])) :
    (parse pattern).accepts name = true ↔ Globs atEnds pattern name := by
  by_cases hlast : pattern.toList.getLast? = some '*'
  · obtain ⟨middle, hshape⟩ : ∃ middle, pattern.toList = middle ++ ['*'] :=
      ⟨_, (List.dropLast_append_getLast? '*' hlast).symm⟩
    have hhead : middle.head? ≠ some '*' := by
      intro hhead
      have hmiddle := List.cons_head?_tail hhead
      exact h middle.tail (by rw [hshape, ← List.cons_append, hmiddle])
    rw [parse_of_star_last hshape, Globs, hshape, ofPattern_atEnds_of_star_last hhead]
    exact cover_itself_anything.symm
  · rw [accepts_iff_atOneEnd, Globs, Globs, atEnds_eq_atOneEnd hlast]

/-- A pattern with a star at both ends asks for names that begin with the first one. -/
theorem accepts_of_stars (h : pattern.toList = '*' :: (middle ++ ['*'])) :
    (parse pattern).accepts name = true ↔ '*' :: middle <+: name.toList :=
  parse_of_star_last (h.trans (List.cons_append ..).symm)

theorem globs_atEnds_of_stars (h : pattern.toList = '*' :: (middle ++ ['*'])) :
    Globs atEnds pattern name ↔ middle <:+: name.toList := by
  rw [Globs, h, ofPattern_atEnds_of_stars]
  exact cover_anything_itself_anything

/-- **A class pattern means the glob whose star is wild at one end**: the last character, or the
first if the last is no star.  What it accepts is always covered by the glob whose stars are wild
at both ends; that glob is what it means exactly if there are not two such stars. -/
theorem accepts_parse_iff (pattern : String) :
    (∀ name, (parse pattern).accepts name = true ↔ Globs atOneEnd pattern name) ∧
    (∀ name, (parse pattern).accepts name = true → Globs atEnds pattern name) ∧
    ((∀ name, (parse pattern).accepts name = true ↔ Globs atEnds pattern name) ↔
      ¬∃ middle, pattern.toList = '*' :: (middle ++ ['*'])) := by
  refine ⟨fun name => accepts_iff_atOneEnd, fun name haccepts => ?_, fun hall => ?_, fun hnot => ?_⟩
  · by_cases hstars : ∃ middle, pattern.toList = '*' :: (middle ++ ['*'])
    · obtain ⟨middle, hstars⟩ := hstars
      have hprefix := (accepts_of_stars hstars).mp haccepts
      exact (globs_atEnds_of_stars hstars).mpr
        ((List.suffix_cons '*' middle).isInfix.trans hprefix.isInfix)
    · exact (accepts_iff_atEnds (not_exists.mp hstars)).mp haccepts
  · -- The name between the two stars is covered, and too short to begin with the first of them.
    rintro ⟨middle, hstars⟩
    have hglobs : Globs atEnds pattern (String.ofList middle) := by
      rw [globs_atEnds_of_stars hstars, String.toList_ofList]
    have hprefix := (accepts_of_stars hstars).mp ((hall _).mpr hglobs)
    rw [String.toList_ofList] at hprefix
    exact absurd hprefix.length_le (by simp)
  · exact fun name => accepts_iff_atEnds (not_exists.mp hnot)

/-- The glob with a star at both ends covers a name that the pattern does not accept. -/
theorem contained_not_accepted :
    Globs atEnds "*Service*" "com.example.ServiceImpl" ∧
      (parse "*Service*").accepts "com.example.ServiceImpl" = false := by
  have hstars : "*Service*".toList = '*' :: ("Service".toList ++ ['*']) := by decide
  refine ⟨(globs_atEnds_of_stars hstars).mpr ?_, by decide⟩
  exact ⟨"com.example.".toList, "Impl".toList, by decide⟩

end ClassPattern
end DebugWire

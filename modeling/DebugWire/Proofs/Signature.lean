import DebugWire.Signature
import Mathlib.Data.String.Basic

/-!
# Proofs/Signature — signatures of classes and their names

The signature of a class is told from its name and its name from the signature.  The way back ends
where it began exactly if no separator of the other kind occurs, and if what is enclosed as a
signature is does not look enclosed itself (`Enclosed`), as that is left alone
(`signatureOf_nameOf_iff`, `nameOf_signatureOf_iff`).  The dimensions of an array are named apart
from its element (`nameOf_replicate_append`).
-/

namespace DebugWire.Signature

variable {s t : List Char}

/-! ## Separators -/

/-- One character is put in the place of another, and the other back in its place. -/
theorem map_replace_replace_iff {a b : Char} (h : a ≠ b) :
    (s.map fun c => if c = a then b else c).map (fun c => if c = b then a else c) = s ↔ b ∉ s := by
  rw [List.map_map]
  conv_lhs => rhs; rw [← List.map_id s]
  rw [List.map_inj_left]
  refine ⟨fun hback hb => h ?_, fun hb c hc => ?_⟩
  · simpa [h.symm] using hback b hb
  · have hne : c ≠ b := fun heq => hb (heq ▸ hc)
    by_cases hca : c = a <;> simp [hca, hne]

/-- A name keeps its signature only if no dot was there before. -/
theorem slashed_dotted_iff : slashed (dotted s) = s ↔ '.' ∉ s :=
  map_replace_replace_iff (by decide)

/-- And the other way round for a slash. -/
theorem dotted_slashed_iff : dotted (slashed s) = s ↔ '/' ∉ s :=
  map_replace_replace_iff (by decide)

@[simp] theorem length_dotted : (dotted s).length = s.length := List.length_map _

theorem map_dotted_eq_some_iff {o : Option Char} {x : Char} (hdot : x ≠ '.') (hslash : x ≠ '/') :
    o.map (fun c => if c = '/' then '.' else c) = some x ↔ o = some x := by
  cases o with
  | none => exact iff_of_false nofun nofun
  | some c =>
    rw [Option.map_some, Option.some_inj, Option.some_inj]
    split
    · next h => exact iff_of_false hdot.symm (h ▸ hslash.symm)
    · rfl

/-! ## What is enclosed -/

/-- It begins and ends as the signature of a class does. -/
def Enclosed (s : List Char) : Prop := s.head? = some 'L' ∧ s.getLast? = some ';'

/-- Two different ends, so something enclosed has two characters at least. -/
theorem enclosed_iff : Enclosed s ↔ ∃ t, s = 'L' :: (t ++ [';']) := by
  constructor
  · rintro ⟨hhead, hlast⟩
    obtain ⟨u, rfl⟩ := List.getLast?_eq_some_iff.mp hlast
    cases u with
    | nil => exact absurd hhead (by decide)
    | cons c u =>
      obtain rfl := Option.some.inj hhead
      exact ⟨u, rfl⟩
  · rintro ⟨t, rfl⟩
    exact ⟨rfl, (List.getLast?_concat : ('L' :: t ++ [';']).getLast? = some ';')⟩

/-- Neither end is a separator, so replacing separators leaves them. -/
theorem enclosed_dotted_iff : Enclosed (dotted s) ↔ Enclosed s := by
  rw [Enclosed, dotted, List.head?_map, List.getLast?_map,
    map_dotted_eq_some_iff (by decide) (by decide), map_dotted_eq_some_iff (by decide) (by decide),
    Enclosed]

/-- A name without a semicolon is never taken for a signature. -/
theorem not_enclosed_of_not_mem (h : ';' ∉ s) : ¬ Enclosed s :=
  fun he => h (List.mem_of_getLast? he.2)

/-! ## There and back -/

theorem nameOf_enclosed (t : List Char) : nameOf ('L' :: (t ++ [';'])) = dotted t := by
  have hname : nameOf ('L' :: (t ++ [';'])) =
      dotted ((dropLast? ';' (t ++ [';'])).getD ('L' :: (t ++ [';']))) := rfl
  rw [hname, dropLast?_append_singleton, Option.getD_some]

/-- **What looks enclosed is left alone**, also if it is the name of a class. -/
theorem signatureOf_of_enclosed (h : Enclosed s) : signatureOf s = s := if_pos h

theorem signatureOf_of_not_enclosed (h : ¬ Enclosed s) :
    signatureOf s = 'L' :: (slashed s ++ [';']) := if_neg h

/-- **A signature is found again from the name exactly if no dot is in it, and the name is not taken
for a signature.** -/
theorem signatureOf_nameOf_iff (t : List Char) :
    signatureOf (nameOf ('L' :: (t ++ [';']))) = 'L' :: (t ++ [';']) ↔ '.' ∉ t ∧ ¬ Enclosed t := by
  rw [nameOf_enclosed]
  by_cases h : Enclosed t
  · rw [signatureOf_of_enclosed (enclosed_dotted_iff.mpr h)]
    refine iff_of_false (fun heq => ?_) fun hne => hne.2 h
    -- the name is two characters shorter
    have := congrArg List.length heq
    rw [length_dotted, List.length_cons, List.length_append] at this
    omega
  · rw [signatureOf_of_not_enclosed (mt enclosed_dotted_iff.mp h), ← slashed_dotted_iff]
    simp [h]

/-- **A name is found again from the signature exactly if no slash is in it, and it is not taken for
a signature.** -/
theorem nameOf_signatureOf_iff (s : List Char) :
    nameOf (signatureOf s) = s ↔ '/' ∉ s ∧ ¬ Enclosed s := by
  by_cases h : Enclosed s
  · rw [signatureOf_of_enclosed h]
    refine iff_of_false (fun heq => ?_) fun hne => hne.2 h
    obtain ⟨t, rfl⟩ := enclosed_iff.mp h
    rw [nameOf_enclosed] at heq
    have := congrArg List.length heq
    rw [length_dotted, List.length_cons, List.length_append] at this
    omega
  · rw [signatureOf_of_not_enclosed h, nameOf_enclosed, dotted_slashed_iff]
    simp [h]

/-! ## Arrays -/

/-- **The dimensions of an array are named behind its element.** -/
theorem nameOf_replicate_append (k : Nat) (s : List Char) :
    nameOf (List.replicate k '[' ++ s) =
      nameOf s ++ (List.replicate k ['[', ']']).flatten := by
  induction k with
  | zero => simp
  | succ k ih =>
    rw [List.replicate_succ, List.cons_append, nameOf, ih, List.append_assoc,
      List.replicate_succ', List.flatten_append]
    simp

/-- **Signatures and names of classes are turned into each other and back**, and each dimension of
an array adds a pair of brackets to the name of what it holds. -/
theorem back_and_forth :
    (∀ s : String, '.' ∉ s.toList → ';' ∉ s.toList →
      ofClassName (className ("L" ++ s ++ ";")) = "L" ++ s ++ ";") ∧
    (∀ name : String, '/' ∉ name.toList → ';' ∉ name.toList →
      className (ofClassName name) = name) ∧
    ∀ (k : Nat) (element : String),
      className (String.ofList (List.replicate k '[') ++ element) =
        className element ++ String.join (List.replicate k "[]") := by
  refine ⟨fun s hdot hsemi => ?_, fun name hslash hsemi => ?_, fun k element => ?_⟩
  · have hlist : ("L" ++ s ++ ";").toList = 'L' :: (s.toList ++ [';']) := by simp
    have hback := (signatureOf_nameOf_iff s.toList).mpr ⟨hdot, not_enclosed_of_not_mem hsemi⟩
    rw [ofClassName, className, String.toList_ofList, hlist, hback, ← hlist, String.ofList_toList]
  · have hback := (nameOf_signatureOf_iff name.toList).mpr ⟨hslash, not_enclosed_of_not_mem hsemi⟩
    rw [className, ofClassName, String.toList_ofList, hback, String.ofList_toList]
  · rw [className, String.toList_append, String.toList_ofList, nameOf_replicate_append,
      String.ofList_append, ← className, String.join_eq, List.map_replicate]
    rfl

theorem back_and_forth_of_string :
    ('.' ∉ "java/lang/String".toList ∧ ';' ∉ "java/lang/String".toList ∧
      ofClassName (className ("L" ++ "java/lang/String" ++ ";")) =
        "L" ++ "java/lang/String" ++ ";") ∧
    ('/' ∉ "java.lang.String".toList ∧ ';' ∉ "java.lang.String".toList ∧
      className (ofClassName "java.lang.String") = "java.lang.String") ∧
    className (String.ofList (List.replicate 2 '[') ++ "I") =
      className "I" ++ String.join (List.replicate 2 "[]") := by
  have hslashed : '.' ∉ "java/lang/String".toList ∧ ';' ∉ "java/lang/String".toList := by decide
  have hdotted : '/' ∉ "java.lang.String".toList ∧ ';' ∉ "java.lang.String".toList := by decide
  exact ⟨⟨hslashed.1, hslashed.2, back_and_forth.1 _ hslashed.1 hslashed.2⟩,
    ⟨hdotted.1, hdotted.2, back_and_forth.2.1 _ hdotted.1 hdotted.2⟩, back_and_forth.2.2 2 "I"⟩

end DebugWire.Signature

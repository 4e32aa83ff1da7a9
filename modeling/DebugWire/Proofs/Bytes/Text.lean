import DebugWire.Proofs.Bytes.Parsing
import Mathlib.Order.Bounds.Defs

/-!
# Proofs/Bytes/Text — the texts on the wire are the well-formed ones

A character's number is laid out in one byte, or in a leading byte and others of six bits each
(`Layout`).  Bytes are well formed if they are characters in a row, each in its shortest layout
(`WellFormed`): so they are what some text is written as (`wellFormed_iff`), and what the decoder
accepts.  Where it refuses bytes, the part in front of the fault is the longest that is well formed
(`isGreatest_after`).  A text on the wire is its length and its bytes, and nothing else is read as
one (`Read.readsText`).
-/

namespace DebugWire

namespace Utf8

/-! ## Well-formed bytes -/

/-- How a number may be laid out.  A small one may take more bytes than it needs. -/
inductive Layout (n : Nat) : Bytes → Prop where
  | one (h : n < 0x80) : Layout n [UInt8.ofNat n]
  | two (h : n < 0x800) : Layout n (UInt8.ofNat (0xC0 + n / 0x40) :: trail 1 n)
  | three (h : n < 0x10000) : Layout n (UInt8.ofNat (0xE0 + n / 0x1000) :: trail 2 n)
  | four (h : n < 0x200000) : Layout n (UInt8.ofNat (0xF0 + n / 0x40000) :: trail 3 n)

/-- The bytes of the character with a number. -/
structure IsCharacter (n : Nat) (bs : Bytes) : Prop where
  layout : Layout n bs
  /-- The form is not overlong. -/
  shortest : ∀ other, Layout n other → bs.length ≤ other.length
  not_surrogate : ¬(0xD800 ≤ n ∧ n ≤ 0xDFFF)
  le_max : n ≤ 0x10FFFF

/-- The bytes are characters in a row, and none of them is cut. -/
inductive WellFormed : Bytes → Prop where
  | nil : WellFormed []
  | cons {n : Nat} {bs rest : Bytes} (hchar : IsCharacter n bs) (hrest : WellFormed rest) :
      WellFormed (bs ++ rest)

/-- The width of a layout decides it. -/
theorem Layout.eq_of_length_eq {n : Nat} {bs other : Bytes} (h : Layout n bs)
    (hother : Layout n other) (hlength : bs.length = other.length) : bs = other := by
  cases h with
  | one =>
    cases hother with
    | one => rfl
    | two | three | four => exact absurd hlength (by simp)
  | two =>
    cases hother with
    | two => rfl
    | one | three | four => exact absurd hlength (by simp)
  | three =>
    cases hother with
    | three => rfl
    | one | two | four => exact absurd hlength (by simp)
  | four =>
    cases hother with
    | four => rfl
    | one | two | three => exact absurd hlength (by simp)

/-- A character is written in a layout of its number. -/
theorem layout_char (c : Char) : Layout c.toNat (String.utf8EncodeChar c) := by
  have hvalid := toNat_char c
  by_cases hone : c.toNat ≤ 0x7F
  · rw [bytes_one hone]
    exact .one (by omega)
  by_cases htwo : c.toNat ≤ 0x7FF
  · have hlead : c.toNat / 64 % 32 + 192 = 0xC0 + c.toNat / 0x40 := by omega
    rw [bytes_two hone htwo, hlead]
    exact .two (by omega)
  by_cases hthree : c.toNat ≤ 0xFFFF
  · have hlead : c.toNat / 4096 % 16 + 224 = 0xE0 + c.toNat / 0x1000 := by omega
    rw [bytes_three htwo hthree, hlead]
    exact .three (by omega)
  · have hlead : c.toNat / 262144 % 8 + 240 = 0xF0 + c.toNat / 0x40000 := by omega
    rw [bytes_four hthree, hlead]
    exact .four (by omega)

/-- No layout of a character's number is shorter. -/
theorem Layout.length_char_le {c : Char} {other : Bytes} (h : Layout c.toNat other) :
    (String.utf8EncodeChar c).length ≤ other.length := by
  by_cases hone : c.toNat ≤ 0x7F
  · rw [bytes_one hone]
    cases h <;> simp
  by_cases htwo : c.toNat ≤ 0x7FF
  · rw [bytes_two hone htwo]
    cases h with
    | one => omega
    | two | three | four => simp
  by_cases hthree : c.toNat ≤ 0xFFFF
  · rw [bytes_three htwo hthree]
    cases h with
    | one | two => omega
    | three | four => simp
  · rw [bytes_four hthree]
    cases h with
    | one | two | three => omega
    | four => simp

/-- **The bytes of a character** are those that it is written as. -/
theorem isCharacter_iff {n : Nat} {bs : Bytes} :
    IsCharacter n bs ↔ ∃ c : Char, c.toNat = n ∧ bs = String.utf8EncodeChar c := by
  constructor
  · rintro ⟨hlayout, hshortest, hsurrogate, hmax⟩
    obtain ⟨c, rfl⟩ : ∃ c : Char, c.toNat = n :=
      ⟨Char.ofNat n, toNat_ofNat (by unfold Nat.isValidChar; omega)⟩
    have hlength := Nat.le_antisymm (hshortest _ (layout_char c)) hlayout.length_char_le
    exact ⟨c, rfl, hlayout.eq_of_length_eq (layout_char c) hlength⟩
  · rintro ⟨c, rfl, rfl⟩
    have hvalid := toNat_char c
    exact ⟨layout_char c, fun _ hother => hother.length_char_le, by omega, by omega⟩

/-- **Well-formed bytes are what some text is written as.** -/
theorem wellFormed_iff {bs : Bytes} : WellFormed bs ↔ ∃ s, bs = encode s := by
  constructor
  · intro h
    induction h with
    | nil => exact ⟨"", rfl⟩
    | @cons n bs rest hchar hrest ih =>
      obtain ⟨c, -, rfl⟩ := isCharacter_iff.mp hchar
      obtain ⟨s, rfl⟩ := ih
      refine ⟨String.ofList (c :: s.toList), ?_⟩
      rw [encode, encode, String.toList_ofList, List.flatMap_cons]
  · rintro ⟨s, rfl⟩
    rw [encode]
    induction s.toList with
    | nil => exact .nil
    | cons c cs ih =>
      rw [List.flatMap_cons]
      exact .cons (isCharacter_iff.mpr ⟨c, rfl, rfl⟩) ih

/-! ## The longest part in front -/

/-- A text in front is read off, and what follows is read as it would be there. -/
theorem scan_chars_append (cs : List Char) (after : Nat) (rest : Bytes) :
    scan after none (cs.flatMap String.utf8EncodeChar ++ rest) =
      (cs ++ ·) <$> scan (after + (cs.flatMap String.utf8EncodeChar).length) none rest := by
  induction cs generalizing after with
  | nil => exact (id_map _).symm
  | cons c cs ih =>
    rw [List.flatMap_cons, List.append_assoc, scan_char, ih, Functor.map_map, List.length_append,
      Nat.add_assoc]
    rfl

/-- A fault has a text in front of it. -/
theorem exists_chars_of_scan {after : Nat} {bs : Bytes} {fault : Fault}
    (h : scan after none bs = .error fault) :
    ∃ (cs : List Char) (rest : Bytes), bs = cs.flatMap String.utf8EncodeChar ++ rest ∧
      fault.after = after + (cs.flatMap String.utf8EncodeChar).length := by
  induction hlength : bs.length using Nat.strongRecOn generalizing after bs with
  | ind length ih =>
    obtain rfl | ⟨fault', hfault, hafter⟩ | ⟨c, tail, rfl⟩ := scan_front after bs
    · exact absurd h nofun
    · obtain rfl := Except.error.inj (hfault.symm.trans h)
      exact ⟨[], bs, rfl, hafter⟩
    · rw [scan_char] at h
      have hpos := c.utf8Size_pos
      rw [List.length_append, String.length_utf8EncodeChar] at hlength
      obtain ⟨cs, rest, rfl, hafter⟩ := ih tail.length (by omega) (eq_error_of_map h) rfl
      refine ⟨c :: cs, rest, ?_, ?_⟩
      · rw [List.flatMap_cons, List.append_assoc]
      · rw [hafter, List.flatMap_cons, List.length_append, Nat.add_assoc]

/-- **A fault names the length of the longest well-formed part in front.** -/
theorem isGreatest_after {bs : Bytes} {fault : Fault} (h : decode bs = .error fault) :
    IsGreatest {n | n ≤ bs.length ∧ WellFormed (bs.take n)} fault.after := by
  have hscan : scan 0 none bs = .error fault := eq_error_of_map h
  constructor
  · obtain ⟨cs, rest, rfl, hafter⟩ := exists_chars_of_scan hscan
    rw [Nat.zero_add] at hafter
    refine ⟨?_, wellFormed_iff.mpr ⟨String.ofList cs, ?_⟩⟩
    · rw [hafter, List.length_append]
      exact Nat.le_add_right _ _
    · rw [hafter, List.take_left, encode, String.toList_ofList]
  · -- A longer part would be read off, and the fault would lie behind it.
    rintro n ⟨hle, hfront⟩
    obtain ⟨s, hs⟩ := wellFormed_iff.mp hfront
    rw [← List.take_append_drop n bs, hs, encode, scan_chars_append] at hscan
    obtain ⟨cs, rest, -, hafter⟩ := exists_chars_of_scan (eq_error_of_map hscan)
    have hlength : (s.toList.flatMap String.utf8EncodeChar).length = n := by
      rw [← encode, ← hs]
      exact List.length_take_of_le hle
    omega

/-- **The wording of a fault tells where it lies.** -/
theorem Fault.exists_message (fault : Fault) :
    ∃ words, (DecodeError.invalidString fault).message =
      words ++ s!" from index {fault.after}" := by
  cases fault with
  | incomplete after =>
    have hwords : "incomplete utf-8 byte sequence from index " =
        "incomplete utf-8 byte sequence" ++ " from index " := by decide
    refine ⟨"invalid utf-8 string: " ++ "incomplete utf-8 byte sequence", ?_⟩
    calc (DecodeError.invalidString (.incomplete after)).message
        = "invalid utf-8 string: " ++
            ("incomplete utf-8 byte sequence from index " ++ toString after) := rfl
      _ = "invalid utf-8 string: " ++ "incomplete utf-8 byte sequence" ++
            (" from index " ++ toString after) := by
          rw [hwords, String.append_assoc, String.append_assoc]
  | invalid length after =>
    have hwords : " bytes from index " = " bytes" ++ " from index " := by decide
    refine ⟨"invalid utf-8 string: " ++ ("invalid utf-8 sequence of " ++ toString length ++
      " bytes"), ?_⟩
    calc (DecodeError.invalidString (.invalid length after)).message
        = "invalid utf-8 string: " ++ ("invalid utf-8 sequence of " ++ toString length ++
            " bytes from index " ++ toString after) := rfl
      _ = "invalid utf-8 string: " ++ ("invalid utf-8 sequence of " ++ toString length ++
            " bytes") ++ (" from index " ++ toString after) := by
          simp only [hwords, String.append_assoc]

end Utf8

namespace Read

/-! ## Texts on the wire -/

/-- The bytes in front are a length, and as many as it says. -/
structure Announces (c : Cursor) (field text rest : Bytes) : Prop where
  rest_eq : c.rest = field ++ text ++ rest
  length_field : field.length = 4
  length_text : text.length = ofBigEndian field

/-- A text, as it is read from a place. -/
structure ReadsText (c : Cursor) (result : Except DecodeError String × Cursor) : Prop where
  /-- Reading succeeds if length and bytes are there, and these are well formed. -/
  succeeds_iff : (∃ s, result.1 = .ok s) ↔
    ∃ field text rest, Announces c field text rest ∧ Utf8.WellFormed text
  /-- What is read is written as the bytes that it was read from. -/
  written : ∀ s, result.1 = .ok s → c.rest = Bytes.ofString s ++ result.2.rest ∧
    result.2.position = c.position + (Bytes.ofString s).length
  /-- Bytes that are ill formed are refused after the last of them, and the refusal tells how long
  their longest well-formed part in front is. -/
  refused : ∀ field text rest, Announces c field text rest → ¬Utf8.WellFormed text →
    ∃ fault words n, result = (.error (.invalidString fault),
        ⟨c.position + (field ++ text).length, rest⟩) ∧
      (DecodeError.invalidString fault).message = words ++ s!" from index {n}" ∧
      IsGreatest {n | n ≤ text.length ∧ Utf8.WellFormed (text.take n)} n

/-- A length and ill-formed bytes are read, and refused. -/
theorem run_string_of_announces {c : Cursor} {field text rest : Bytes}
    (h : Announces c field text rest) {fault : Utf8.Fault}
    (hfault : Utf8.decode text = .error fault) :
    string.run c =
      (.error (.invalidString fault), ⟨c.position + (field ++ text).length, rest⟩) := by
  obtain ⟨p, front⟩ := c
  obtain ⟨hrest, hfield, htext⟩ := h
  obtain rfl : front = field ++ (text ++ rest) := hrest.trans (List.append_assoc ..)
  have hlength : uint32.run ⟨p, field ++ (text ++ rest)⟩ =
      (.ok (UInt32.ofNat (ofBigEndian field)), ⟨p + 4, text ++ rest⟩) := by
    have hread := reads_uint32 (UInt32.ofNat (ofBigEndian field)) p (text ++ rest)
    rwa [Bytes.ofUInt32_ofNat hfield, hfield] at hread
  have hnat : (UInt32.ofNat (ofBigEndian field)).toNat = text.length := by
    rw [htext]
    exact UInt32.toNat_ofNat_of_lt' (ofBigEndian_lt hfield)
  rw [string, Attempt.run_bind_of_ok hlength, hnat,
    Attempt.run_bind_of_ok (run_bytes_append text rest (p + 4)), hfault, List.length_append, hfield,
    ← Nat.add_assoc]
  rfl

theorem readsText (c : Cursor) : ReadsText c (string.run c) := by
  have hparses (s : String) (d : Cursor) := parses_string c.position c.rest s d
  refine ⟨?_, ?_, ?_⟩
  · constructor
    · rintro ⟨s, hs⟩
      obtain ⟨bs, rest, ⟨hfits, rfl⟩, hrest, -⟩ := (hparses s _).mp (Prod.ext hs rfl)
      refine ⟨_, _, rest, ⟨hrest, length_bigEndian _ _, ?_⟩, Utf8.wellFormed_iff.mpr ⟨s, rfl⟩⟩
      rw [ofBigEndian_bigEndian]
      exact (Nat.mod_eq_of_lt hfits).symm
    · rintro ⟨field, text, rest, ⟨hrest, hfield, htext⟩, hwell⟩
      obtain ⟨s, rfl⟩ := Utf8.wellFormed_iff.mp hwell
      have hwritten : field ++ Utf8.encode s = Bytes.ofString s := by
        rw [Bytes.ofString, htext, bigEndian_ofBigEndian hfield]
      have hfits : (Utf8.encode s).length < 2 ^ 32 := htext ▸ ofBigEndian_lt hfield
      have hrun := (hparses s _).mpr ⟨_, rest, ⟨hfits, rfl⟩, hwritten ▸ hrest, rfl⟩
      exact ⟨s, congrArg Prod.fst hrun⟩
  · intro s hs
    obtain ⟨bs, rest, ⟨-, rfl⟩, hrest, hcursor⟩ := (hparses s _).mp (Prod.ext hs rfl)
    have hafter : (string.run c).2 = ⟨c.position + (Bytes.ofString s).length, rest⟩ := hcursor
    rw [hafter]
    exact ⟨hrest, rfl⟩
  · intro field text rest hannounces hill
    cases hdecode : Utf8.decode text with
    | ok s =>
      exact absurd (Utf8.wellFormed_iff.mpr ⟨s, Utf8.decode_eq_ok_iff.mp hdecode⟩) hill
    | error fault =>
      obtain ⟨words, hwords⟩ := fault.exists_message
      exact ⟨fault, words, fault.after, run_string_of_announces hannounces hdecode, hwords,
        Utf8.isGreatest_after hdecode⟩

/-- **Texts are written and read exactly**: what is written is read back, whatever follows, unless
it is too long for its length to be told; and what is read is a length and well-formed bytes. -/
theorem exact_text :
    (∀ s : String, (Utf8.encode s).length < 2 ^ 32 → Reads string (Bytes.ofString s) s) ∧
      ∀ c : Cursor, ReadsText c (string.run c) :=
  ⟨fun _ => reads_string, readsText⟩

theorem exact_text_of_euro :
    (Utf8.encode "5 €").length < 2 ^ 32 ∧ Reads string (Bytes.ofString "5 €") "5 €" :=
  ⟨by decide, exact_text.1 "5 €" (by decide)⟩

end Read
end DebugWire

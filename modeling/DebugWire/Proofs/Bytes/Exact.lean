import DebugWire.Proofs.Bytes.Reading

/-!
# Proofs/Bytes/Exact — readers of a fixed width, and the values behind a tag

`Takes x w make` says all about a reader of fixed width: with `w` bytes left it takes them and makes
its result of them, and with fewer it refuses and takes none.  The value behind a tag is read so
(`takes_readPayload`), and what is made of its bytes is written as the same bytes again
(`payload_valueOf`), a boolean as 0 or 1.

So there are four ways in which reading a tag and its value can end (`TaggedRead`), and the bytes
decide which.
-/

namespace DebugWire

variable {α β : Type} {w : Nat} {bs : Bytes}

/-! ## Bytes that spell a number -/

namespace Bytes

theorem ofUInt8_ofNat (h : bs.length = 1) : ofUInt8 (UInt8.ofNat (ofBigEndian bs)) = bs := by
  obtain ⟨b, rfl⟩ := List.length_eq_one_iff.mp h
  have hdigit : ofBigEndian [b] = b.toNat := by rw [← List.nil_append [b], ofBigEndian_concat]; simp
  rw [hdigit, UInt8.ofNat_toNat]
  rfl

/-- A number of the right width is spelled by the bytes that it came from; so for each width. -/
theorem ofUInt16_ofNat (h : bs.length = 2) : ofUInt16 (UInt16.ofNat (ofBigEndian bs)) = bs := by
  rw [ofUInt16, UInt16.toNat_ofNat_of_lt' (ofBigEndian_lt h), bigEndian_ofBigEndian h]

theorem ofUInt32_ofNat (h : bs.length = 4) : ofUInt32 (UInt32.ofNat (ofBigEndian bs)) = bs := by
  rw [ofUInt32, UInt32.toNat_ofNat_of_lt' (ofBigEndian_lt h), bigEndian_ofBigEndian h]

theorem ofUInt64_ofNat (h : bs.length = 8) : ofUInt64 (UInt64.ofNat (ofBigEndian bs)) = bs := by
  rw [ofUInt64, UInt64.toNat_ofNat_of_lt' (ofBigEndian_lt h), bigEndian_ofBigEndian h]

end Bytes

/-! ## Readers of a fixed width -/

/-- The reader takes so many bytes and makes its result of them, or takes none. -/
def Takes (x : Read α) (w : Nat) (make : Bytes → α) : Prop :=
  ∀ c, x.run c =
    if w ≤ c.remaining then (.ok (make (c.rest.take w)), c.advance w)
    else (.error (.truncated w c.position c.length), c)

/-- What is made of the bytes may be made into something else. -/
theorem Takes.map {x : Read α} {make : Bytes → α} (h : Takes x w make) (f : α → β) :
    Takes (f <$> x) w (f ∘ make) := by
  intro c
  rw [Attempt.run_map, h c]
  split <;> rfl

theorem takes_pure (a : α) : Takes (pure a) 0 fun _ => a := by
  intro c
  rw [if_pos (Nat.zero_le _)]
  rfl

namespace Read

/-- **The one reader that looks at the cursor**: the others are made of it. -/
theorem takes_bytes (n : Nat) : Takes (bytes n) n id := by
  intro c
  split
  · next hle => exact bytes_of_le hle
  · next hlt => exact bytes_of_lt (Nat.lt_of_not_le hlt)

theorem takes_number (w : Nat) : Takes (number w) w ofBigEndian := (takes_bytes w).map ofBigEndian

theorem takes_uint8 : Takes uint8 1 (UInt8.ofNat ∘ ofBigEndian) := (takes_number 1).map UInt8.ofNat

theorem takes_uint16 : Takes uint16 2 (UInt16.ofNat ∘ ofBigEndian) :=
  (takes_number 2).map UInt16.ofNat

theorem takes_uint32 : Takes uint32 4 (UInt32.ofNat ∘ ofBigEndian) :=
  (takes_number 4).map UInt32.ofNat

theorem takes_uint64 : Takes uint64 8 (UInt64.ofNat ∘ ofBigEndian) :=
  (takes_number 8).map UInt64.ofNat

end Read

/-! ## The value behind a tag -/

/-- What is made of the bytes that follow the tag. -/
def PrimitiveTag.valueOf (t : PrimitiveTag) (bs : Bytes) : Primitive :=
  let n := ofBigEndian bs
  match t with
  | .byte => .byte (UInt8.ofNat n).toInt8
  | .char => .char (UInt16.ofNat n)
  | .float => .float (UInt32.ofNat n)
  | .double => .double (UInt64.ofNat n)
  | .int => .int (UInt32.ofNat n).toInt32
  | .long => .long (UInt64.ofNat n).toInt64
  | .short => .short (UInt16.ofNat n).toInt16
  | .void => .void
  | .boolean => .boolean (UInt8.ofNat n != 0)

namespace ValueTag

/-- What is made of the bytes that follow the tag. -/
def valueOf (t : ValueTag) (bs : Bytes) : WireValue :=
  match t with
  | .primitive t => .primitive (t.valueOf bs)
  | .object k => .object k ⟨UInt64.ofNat (ofBigEndian bs)⟩

/-- The bytes as they are written: a boolean is 0 or 1. -/
def rewritten (t : ValueTag) (bs : Bytes) : Bytes :=
  if t = .primitive .boolean ∧ bs ≠ [0] then [1] else bs

@[simp] theorem tag_valueOf (t : ValueTag) (bs : Bytes) : (t.valueOf bs).tag = t := by
  rcases t with t | k
  · cases t <;> rfl
  · rfl

/-- A boolean other than 0 is true, and written as 1. -/
theorem ofBool_ofNat (h : bs.length = 1) :
    Bytes.ofBool (UInt8.ofNat (ofBigEndian bs) != 0) = (primitive .boolean).rewritten bs := by
  have hbytes := Bytes.ofUInt8_ofNat h
  generalize UInt8.ofNat (ofBigEndian bs) = b at hbytes
  subst hbytes
  by_cases hb : b = 0
  · subst hb
    rfl
  · have hne : Bytes.ofUInt8 b ≠ [0] := fun h => hb (List.cons.inj h).1
    rw [rewritten, if_pos ⟨rfl, hne⟩, Bytes.ofBool, if_pos (by simpa using hb)]

/-- **What is made of some bytes is written as the same bytes.** -/
theorem payload_valueOf {t : ValueTag} (h : bs.length = t.width) :
    (t.valueOf bs).payload = t.rewritten bs := by
  have hsame (hbool : t ≠ .primitive .boolean) : t.rewritten bs = bs :=
    if_neg fun hboth => hbool hboth.1
  rcases t with t | k
  · cases t with
    | byte => rw [hsame nofun]; exact Bytes.ofUInt8_ofNat h
    | char => rw [hsame nofun]; exact Bytes.ofUInt16_ofNat h
    | float => rw [hsame nofun]; exact Bytes.ofUInt32_ofNat h
    | double => rw [hsame nofun]; exact Bytes.ofUInt64_ofNat h
    | int => rw [hsame nofun]; exact Bytes.ofUInt32_ofNat h
    | long => rw [hsame nofun]; exact Bytes.ofUInt64_ofNat h
    | short => rw [hsame nofun]; exact Bytes.ofUInt16_ofNat h
    | void => rw [hsame nofun]; exact (List.eq_nil_of_length_eq_zero h).symm
    | boolean => exact ofBool_ofNat h
  · rw [hsame nofun]
    exact Bytes.ofUInt64_ofNat h

end ValueTag

namespace Read

/-- Each primitive is a number of its width, or what one stands for. -/
theorem takes_primitive (t : PrimitiveTag) :
    Takes t.read (ValueTag.primitive t).width t.valueOf := by
  cases t with
  | byte => exact takes_uint8.map (Primitive.byte ∘ UInt8.toInt8)
  | char => exact takes_uint16.map Primitive.char
  | float => exact takes_uint32.map Primitive.float
  | double => exact takes_uint64.map Primitive.double
  | int => exact (takes_uint32.map UInt32.toInt32).map Primitive.int
  | long => exact (takes_uint64.map UInt64.toInt64).map Primitive.long
  | short => exact (takes_uint16.map UInt16.toInt16).map Primitive.short
  | void => exact takes_pure Primitive.void
  | boolean => exact (takes_uint8.map (· != 0)).map Primitive.boolean

/-- **The value behind a tag** has the tag's width. -/
theorem takes_readPayload (t : ValueTag) : Takes (WireValue.readPayload t) t.width t.valueOf := by
  cases t with
  | primitive t => exact (takes_primitive t).map WireValue.primitive
  | object k => exact (takes_uint64.map WireId.mk).map (WireValue.object k)

/-! ## A tag and its value -/

/-- How reading a tag and its value ends. -/
inductive TaggedRead (c : Cursor) : Except DecodeError WireValue × Cursor → Prop where
  | empty (hrest : c.rest = []) : TaggedRead c (.error (.truncated 1 c.position c.length), c)
  /-- The byte is read, and no tag. -/
  | unknown {b : UInt8} {rest : Bytes} (hrest : c.rest = b :: rest)
      (hnone : ∀ t : ValueTag, t.number ≠ b) :
      TaggedRead c (.error (.unknownTag b), ⟨c.position + 1, rest⟩)
  /-- The tag is read, and too few bytes follow. -/
  | short {t : ValueTag} {rest : Bytes} (hrest : c.rest = t.number :: rest)
      (hlt : rest.length < t.width) :
      TaggedRead c (.error (.truncated t.width (c.position + 1) c.length), ⟨c.position + 1, rest⟩)
  | value {t : ValueTag} {bs rest : Bytes} (hrest : c.rest = t.number :: bs ++ rest)
      (hlength : bs.length = t.width) :
      TaggedRead c (.ok (t.valueOf bs), ⟨c.position + 1 + t.width, rest⟩)

/-- **The bytes decide how it ends.** -/
theorem taggedRead_value (c : Cursor) : TaggedRead c (value.run c) := by
  obtain ⟨p, front⟩ := c
  cases front with
  | nil =>
    have htag : valueTag.run ⟨p, []⟩ = (.error (.truncated 1 p (Cursor.length ⟨p, []⟩)), ⟨p, []⟩) :=
      Attempt.run_bind_of_error (takes_uint8 ⟨p, []⟩) _
    rw [value, Attempt.run_bind_of_error htag]
    exact .empty rfl
  | cons b rest =>
    have hbyte : uint8.run ⟨p, b :: rest⟩ = (.ok b, ⟨p + 1, rest⟩) := run_uint8 b rest p
    have hlength : Cursor.length ⟨p, b :: rest⟩ = Cursor.length ⟨p + 1, rest⟩ := by
      simp only [Cursor.length, Cursor.remaining, List.length_cons]
      omega
    cases htag : ValueTag.ofNumber? b with
    | none =>
      have hnone : ∀ t : ValueTag, t.number ≠ b := by
        rintro t rfl
        exact Option.some_ne_none t (t.ofNumber?_number.symm.trans htag)
      have hread : valueTag.run ⟨p, b :: rest⟩ = (.error (.unknownTag b), ⟨p + 1, rest⟩) := by
        rw [valueTag, Attempt.run_bind_of_ok hbyte, htag]
        rfl
      rw [value, Attempt.run_bind_of_error hread]
      exact .unknown rfl hnone
    | some t =>
      have hnumber : t.number = b := by simpa using List.find?_some htag
      subst hnumber
      have hread : valueTag.run ⟨p, t.number :: rest⟩ = (.ok t, ⟨p + 1, rest⟩) := by
        rw [valueTag, Attempt.run_bind_of_ok hbyte, htag]
        rfl
      rw [value, Attempt.run_bind_of_ok hread, takes_readPayload t ⟨p + 1, rest⟩]
      split
      · next hle =>
        refine .value ?_ (List.length_take_of_le hle)
        exact congrArg (t.number :: ·) (List.take_append_drop t.width rest).symm
      · next hlt =>
        rw [← hlength]
        exact .short rfl (Nat.lt_of_not_le hlt)

/-- A tag and its value, as they are read from a place. -/
structure ExactAt (c : Cursor) (result : Except DecodeError WireValue × Cursor) : Prop where
  /-- Reading fails if there is no byte, if it is no tag, and if too few bytes follow. -/
  fails_iff : (∃ e, result.1 = .error e) ↔
    c.rest = [] ∨ ∃ b rest, c.rest = b :: rest ∧
      ((∀ t : ValueTag, t.number ≠ b) ∨ ∃ t : ValueTag, t.number = b ∧ rest.length < t.width)
  /-- The second of these has a failure of its own. -/
  unknownTag_iff : ∀ b, result.1 = .error (.unknownTag b) ↔
    ∃ rest, c.rest = b :: rest ∧ ∀ t : ValueTag, t.number ≠ b
  /-- What is read is written as the bytes that it was read from, a boolean as 0 or 1. -/
  written : ∀ v, result.1 = .ok v → ∃ bs, c.rest = v.tag.number :: bs ++ result.2.rest ∧
    bs.length = v.tag.width ∧ result.2.position = c.position + (v.tag.number :: bs).length ∧
    v.tagged = v.tag.number :: v.tag.rewritten bs

/-- By the four ways to end, each of which settles all that `ExactAt` says. -/
theorem TaggedRead.exactAt {c : Cursor} {result : Except DecodeError WireValue × Cursor}
    (h : TaggedRead c result) : ExactAt c result := by
  cases h with
  | empty hrest =>
    refine ⟨⟨fun _ => Or.inl hrest, fun _ => ⟨_, rfl⟩⟩, fun b => ⟨nofun, ?_⟩, nofun⟩
    rintro ⟨rest, hcons, -⟩
    exact absurd (hrest.symm.trans hcons) nofun
  | @unknown b rest hrest hnone =>
    refine ⟨⟨fun _ => Or.inr ⟨b, rest, hrest, Or.inl hnone⟩, fun _ => ⟨_, rfl⟩⟩,
      fun b' => ?_, nofun⟩
    constructor
    · rintro ⟨⟩
      exact ⟨rest, hrest, hnone⟩
    · rintro ⟨rest', hcons, -⟩
      rw [(List.cons.inj (hrest.symm.trans hcons)).1]
  | @short t rest hrest hlt =>
    refine ⟨⟨fun _ => Or.inr ⟨_, rest, hrest, Or.inr ⟨t, rfl, hlt⟩⟩, fun _ => ⟨_, rfl⟩⟩,
      fun b => ⟨nofun, ?_⟩, nofun⟩
    rintro ⟨rest', hcons, hnone⟩
    exact absurd (List.cons.inj (hrest.symm.trans hcons)).1 (hnone t)
  | @value t bs rest hrest hlength =>
    -- Whatever tag has this number is the one that was read.
    have htag {b : UInt8} {rest' : Bytes} (hcons : c.rest = b :: rest') :
        t.number = b ∧ bs ++ rest = rest' := List.cons.inj (hrest.symm.trans hcons)
    refine ⟨⟨nofun, ?_⟩, fun b => ⟨nofun, ?_⟩, ?_⟩
    · rintro (hnil | ⟨b, rest', hcons, hnone | ⟨t', hnumber, hlt⟩⟩)
      · exact absurd (hrest.symm.trans hnil) nofun
      · exact absurd (htag hcons).1 (hnone t)
      · obtain ⟨hb, rfl⟩ := htag hcons
        have hsame : t' = t := Option.some.inj <| by
          rw [← t'.ofNumber?_number, ← t.ofNumber?_number, hnumber, hb]
        subst hsame
        rw [List.length_append, hlength] at hlt
        omega
    · rintro ⟨rest', hcons, hnone⟩
      exact absurd (htag hcons).1 (hnone t)
    · rintro v ⟨⟩
      rw [ValueTag.tag_valueOf]
      refine ⟨bs, hrest, hlength, ?_, ?_⟩
      · rw [List.length_cons, hlength]
        change c.position + 1 + t.width = _
        omega
      · rw [WireValue.tagged, ValueTag.tag_valueOf, ValueTag.payload_valueOf hlength]

/-- **Values are written and read exactly**: what is written is read back, with its tag or without,
whatever follows; and what is read is what is written. -/
theorem exact_value :
    (∀ v : WireValue, Reads value v.tagged v ∧ Reads (WireValue.readPayload v.tag) v.payload v) ∧
      ∀ c : Cursor, ExactAt c (value.run c) :=
  ⟨fun v => ⟨reads_value v, reads_readPayload v⟩, fun c => (taggedRead_value c).exactAt⟩

end Read
end DebugWire

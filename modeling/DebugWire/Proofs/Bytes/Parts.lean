import DebugWire.Part
import DebugWire.Proofs.Bytes.Exact
import Mathlib.Algebra.Ring.Nat

/-!
# Proofs/Bytes/Parts — what reading does to the place in a payload

A part is read in one go (`PartKind.width?`), or piece by piece, where the bytes tell how wide the
pieces are (`PartKind.widths`).  `Read.Ends` says all about reading pieces in a row: the pieces are
there and are read, whatever follows them; or they are refused, after the last of them; or too few
bytes are left for one of them, and those in front of it are read.  So no read leaves the payload,
and none goes back (`Cursor.sound_after`), whatever was read before and however that ended.
-/

namespace DebugWire

variable {α β : Type}

/-! ## Places in a payload -/

namespace Cursor

variable {c : Cursor} {payload : Bytes} {m n : Nat}

@[simp] theorem advance_zero (c : Cursor) : c.advance 0 = c := by
  rw [advance, Nat.add_zero, List.drop_zero]

theorem advance_advance (c : Cursor) (m n : Nat) :
    (c.advance m).advance n = c.advance (m + n) := by
  rw [advance, advance, advance, List.drop_drop, Nat.add_assoc]

theorem remaining_advance (c : Cursor) (n : Nat) : (c.advance n).remaining = c.remaining - n :=
  List.length_drop

/-- The place is one in the payload. -/
structure In (payload : Bytes) (c : Cursor) : Prop where
  position_le : c.position ≤ payload.length
  rest_eq : c.rest = payload.drop c.position

/-- Reading begins inside, with everything left. -/
theorem in_start (payload : Bytes) : In payload (start payload) := ⟨Nat.zero_le _, rfl⟩

theorem In.remaining_eq (h : In payload c) : c.remaining = payload.length - c.position := by
  rw [remaining, h.rest_eq, List.length_drop]

theorem In.length_eq (h : In payload c) : c.length = payload.length := by
  have hle := h.position_le
  rw [length, h.remaining_eq]
  omega

/-- **No further than what is left**: the one condition that every reader has to meet. -/
theorem In.advance (h : In payload c) (hn : n ≤ c.remaining) : In payload (c.advance n) := by
  rw [h.remaining_eq] at hn
  have hle := h.position_le
  refine ⟨?_, ?_⟩
  · change c.position + n ≤ payload.length
    omega
  · rw [Cursor.advance, h.rest_eq, List.drop_drop]

end Cursor

/-! ## Pieces in a row -/

/-- Bytes are missing. -/
def DecodeError.isTruncated : DecodeError → Bool
  | .truncated .. => true
  | _ => false

/-- A reader of fixed width makes the same of the same bytes. -/
theorem Takes.reads {x : Read α} {w : Nat} {make : Bytes → α} (h : Takes x w make) {bs : Bytes}
    (hlength : bs.length = w) : Reads x bs (make bs) := by
  intro p rest
  subst hlength
  have hle : bs.length ≤ (⟨p, bs ++ rest⟩ : Cursor).remaining := by simp [Cursor.remaining]
  rw [h, if_pos hle]
  simp [Cursor.advance]

/-- A reader of fixed width that succeeds had its bytes, and made its result of them. -/
theorem Takes.of_ok {x : Read α} {w : Nat} {make : Bytes → α} (h : Takes x w make) {c : Cursor}
    {a : α} (ha : (x.run c).1 = .ok a) : w ≤ c.remaining ∧ a = make (c.rest.take w) := by
  rw [h c] at ha
  split at ha
  · next hle => exact ⟨hle, (Except.ok.inj ha).symm⟩
  · exact absurd ha nofun

namespace Read

/-- How reading pieces of these widths ends. -/
inductive Ends (x : Read α) (widths : List Nat) (c : Cursor) :
    Except DecodeError α × Cursor → Prop where
  /-- The pieces are there, and are read as the same wherever they stand. -/
  | whole {a : α} (hfits : widths.sum ≤ c.remaining)
      (hreads : Reads x (c.rest.take widths.sum) a) : Ends x widths c (.ok a, c.advance widths.sum)
  /-- The pieces are there, and mean nothing. -/
  | refused {e : DecodeError} (hfits : widths.sum ≤ c.remaining)
      (hsense : e.isTruncated = false) : Ends x widths c (.error e, c.advance widths.sum)
  /-- Some pieces are there, and too few bytes for the next. -/
  | short {front back : List Nat} {w : Nat} (hwidths : widths = front ++ w :: back)
      (hfits : front.sum ≤ c.remaining) (hlt : c.remaining < front.sum + w) :
      Ends x widths c
        (.error (.truncated w (c.position + front.sum) c.length), c.advance front.sum)

namespace Ends

variable {x : Read α} {f : α → Read β} {us vs : List Nat} {c : Cursor} {w : Nat}

theorem pure (a : α) (c : Cursor) :
    Ends (Pure.pure a) [] c ((Pure.pure a : Read α).run c) := by
  have hwhole : Ends (Pure.pure a) [] c (.ok a, c.advance 0) :=
    .whole (Nat.zero_le _) (Reads.pure a)
  rwa [Cursor.advance_zero] at hwhole

theorem throw {e : DecodeError} (he : e.isTruncated = false) (c : Cursor) :
    Ends (MonadExcept.throw e) [] c ((MonadExcept.throw e : Read α).run c) := by
  have hrefused : Ends (MonadExcept.throw e : Read α) [] c (.error e, c.advance 0) :=
    .refused (Nat.zero_le _) he
  rwa [Cursor.advance_zero] at hrefused

theorem takes {make : Bytes → α} (h : Takes x w make) (c : Cursor) : Ends x [w] c (x.run c) := by
  rw [h c]
  split
  · next hle => exact .whole hle (h.reads (List.length_take_of_le hle))
  · next hlt =>
    have hshort : Ends x [w] c (.error (.truncated w (c.position + 0) c.length), c.advance 0) :=
      .short (List.nil_append _).symm (Nat.zero_le _) (by rw [List.sum_nil]; omega)
    rwa [Cursor.advance_zero] at hshort

/-- **Pieces behind pieces**, unless those in front mean nothing: then none is asked for. -/
theorem bind (hx : Ends x us c (x.run c))
    (hok : ∀ a, (x.run c).1 = .ok a →
      Ends (f a) vs (c.advance us.sum) ((f a).run (c.advance us.sum)))
    (hrefused : ∀ e, (x.run c).1 = .error e → e.isTruncated = false → vs = []) :
    Ends (x >>= f) (us ++ vs) c ((x >>= f).run c) := by
  generalize hrun : x.run c = result at hx
  cases hx with
  | @whole a hfits hreads =>
    have hf := hok a (by rw [hrun])
    rw [Attempt.run_bind_of_ok hrun]
    generalize (f a).run (c.advance us.sum) = result at hf
    have hremaining := c.remaining_advance us.sum
    have hlength : (c.advance us.sum).length = c.length := Cursor.length_advance hfits
    cases hf with
    | whole hfits' hreads' =>
      rw [Cursor.advance_advance, ← List.sum_append]
      refine .whole ?_ ?_
      · rw [List.sum_append]
        omega
      · rw [List.sum_append, List.take_add]
        exact hreads.bind hreads'
    | refused hfits' hsense =>
      rw [Cursor.advance_advance, ← List.sum_append]
      refine .refused ?_ hsense
      rw [List.sum_append]
      omega
    | @short front back w hwidths hfits' hlt =>
      rw [Cursor.advance_advance, ← List.sum_append, hlength, Cursor.advance, Nat.add_assoc,
        ← List.sum_append]
      have hfront : us ++ vs = us ++ front ++ w :: back := by rw [hwidths, List.append_assoc]
      refine .short hfront ?_ ?_
      · rw [List.sum_append]
        omega
      · rw [List.sum_append]
        omega
  | refused hfits hsense =>
    rw [Attempt.run_bind_of_error hrun, hrefused _ (by rw [hrun]) hsense, List.append_nil]
    exact .refused hfits hsense
  | @short front back w hwidths hfits hlt =>
    rw [Attempt.run_bind_of_error hrun]
    have hfront : us ++ vs = front ++ w :: (back ++ vs) := by
      rw [hwidths, List.append_assoc, List.cons_append]
    exact .short hfront hfits hlt

/-- Pieces behind one that is always read if it is there. -/
theorem cons {make : Bytes → α} (hx : Takes x w make)
    (hf : w ≤ c.remaining →
      Ends (f (make (c.rest.take w))) vs (c.advance w)
        ((f (make (c.rest.take w))).run (c.advance w))) :
    Ends (x >>= f) (w :: vs) c ((x >>= f).run c) := by
  refine (bind (takes hx c) ?_ ?_ : Ends (x >>= f) ([w] ++ vs) c _)
  · intro a ha
    obtain ⟨hle, rfl⟩ := hx.of_ok ha
    exact hf hle
  · intro e he hsense
    rw [hx c] at he
    split at he
    · exact absurd he nofun
    · rw [← Except.error.inj he] at hsense
      exact absurd hsense nofun

theorem map {r : Except DecodeError α × Cursor} (h : Ends x us c r) (g : α → β) :
    Ends (g <$> x) us c (r.1.map g, r.2) := by
  cases h with
  | whole hfits hreads => exact .whole hfits (hreads.map g)
  | refused hfits hsense => exact .refused hfits hsense
  | short hwidths hfits hlt => exact .short hwidths hfits hlt

/-- Whatever is read, the place goes on, and not beyond the end. -/
theorem exists_advance {r : Except DecodeError α × Cursor} (h : Ends x us c r) :
    ∃ n, n ≤ c.remaining ∧ r.2 = c.advance n := by
  cases h with
  | whole hfits _ => exact ⟨_, hfits, rfl⟩
  | refused hfits _ => exact ⟨_, hfits, rfl⟩
  | short _ hfits _ => exact ⟨_, hfits, rfl⟩

/-- **The bytes that are read decide** what they are read as, wherever they stand. -/
theorem decided {r : Except DecodeError α × Cursor} (h : Ends x us c r) {a : α} (ha : r.1 = .ok a)
    {other : Cursor} (hother : c.rest.take (r.2.position - c.position) <+: other.rest) :
    x.run other = (.ok a, other.advance (r.2.position - c.position)) := by
  cases h with
  | refused | short => exact absurd ha nofun
  | whole hfits hreads =>
    obtain rfl := Except.ok.inj ha
    have hwide : (c.advance us.sum).position - c.position = us.sum := Nat.add_sub_cancel_left ..
    rw [hwide] at hother ⊢
    obtain ⟨tail, htail⟩ := hother
    obtain ⟨p, ahead⟩ := other
    obtain rfl : c.rest.take us.sum ++ tail = ahead := htail
    have hlength : (c.rest.take us.sum).length = us.sum := List.length_take_of_le hfits
    rw [hreads, Cursor.advance, hlength, List.drop_left' hlength]

end Ends

/-! ## The pieces of each kind -/

/-- Behind a tag comes what it announces; behind a byte that is no tag, nothing is asked for. -/
theorem ends_tag {τ : Type} {tag : UInt8 → Read τ} {find : UInt8 → Option τ}
    (hsome : ∀ b t, find b = some t → tag b = Pure.pure t)
    (hnone : ∀ b, find b = none → ∃ e : DecodeError, e.isTruncated = false ∧
      tag b = MonadExcept.throw e)
    {f : τ → Read α} {widths : τ → List Nat} (hf : ∀ t d, Ends (f t) (widths t) d ((f t).run d))
    (c : Cursor) : Ends (uint8 >>= tag >>= f) (1 :: (c.rest.head?.bind find).elim [] widths) c
      ((uint8 >>= tag >>= f).run c) := by
  rw [bind_assoc]
  refine .cons takes_uint8 fun hle => ?_
  obtain ⟨b, rest, hrest⟩ := List.exists_cons_of_length_pos hle
  have hspelled : Bytes.ofUInt8 (UInt8.ofNat (ofBigEndian [b])) = [b] := Bytes.ofUInt8_ofNat rfl
  have hbyte : (UInt8.ofNat ∘ ofBigEndian) (c.rest.take 1) = b := by
    rw [hrest]
    exact (List.cons.inj hspelled).1
  rw [hbyte, hrest, List.head?_cons, Option.bind_some]
  cases hfind : find b with
  | none =>
    obtain ⟨e, he, hrefused⟩ := hnone b hfind
    rw [hrefused]
    exact .bind (.throw he _) nofun fun _ _ _ => rfl
  | some t =>
    rw [hsome b t hfind, pure_bind]
    exact hf t _

theorem ends_count (c : Cursor) : Ends count [4] c (count.run c) := by
  refine .cons (takes_uint32.map UInt32.toInt32) fun _ => ?_
  split
  · exact .throw rfl _
  · exact .pure _ _

/-- The second width is what the first four bytes spell. -/
theorem ends_string (c : Cursor) :
    Ends string [4, ofBigEndian (c.rest.take 4)] c (string.run c) := by
  refine .cons takes_uint32 fun hle => ?_
  have hwidth : (UInt32.ofNat (ofBigEndian (c.rest.take 4))).toNat = ofBigEndian (c.rest.take 4) :=
    UInt32.toNat_ofNat_of_lt' (ofBigEndian_lt (List.length_take_of_le hle))
  dsimp only [Function.comp]
  rw [hwidth]
  refine .cons (takes_bytes _) fun _ => ?_
  split
  · exact .pure _ _
  · exact .throw rfl _

theorem ends_typeTag (c : Cursor) : Ends typeTag [1] c (typeTag.run c) := by
  refine .cons takes_uint8 fun _ => ?_
  split
  · exact .pure _ _
  · exact .throw rfl _

/-- The ids are only there if the tag is known. -/
theorem ends_position (c : Cursor) :
    Ends position (1 :: (c.rest.head?.bind TypeTag.ofNumber?).elim [] fun _ => [8, 8, 8]) c
      (position.run c) := by
  refine ends_tag (fun b tag h => ?_) (fun b h => ⟨.unknownTypeTag b, rfl, ?_⟩) (fun tag d => ?_) c
  · rw [h]
  · rw [h]
  · refine .cons (takes_uint64.map WireId.mk) fun _ => ?_
    exact .cons (takes_uint64.map WireId.mk) fun _ => .cons takes_uint64 fun _ => .pure _ _

/-- How wide a value is, its tag tells. -/
theorem ends_value (c : Cursor) :
    Ends value (1 :: (c.rest.head?.bind ValueTag.ofNumber?).elim [] fun t => [t.width]) c
      (value.run c) := by
  refine ends_tag (fun b tag h => ?_) (fun b h => ⟨.unknownTag b, rfl, ?_⟩)
    (fun t d => .takes (takes_readPayload t) d) c
  · rw [h]
  · rw [h]

end Read

/-! ## Every kind of part -/

namespace PartKind

/-- How wide a part is that is read in one go. -/
def width? : PartKind → Option Nat
  | .uint8 | .bool => some 1
  | .uint16 | .int16 => some 2
  | .uint32 | .int32 | .float32 => some 4
  | .uint64 | .int64 | .float64 | .wireId => some 8
  | .bytes n => some n
  | .untagged t => some t.width
  | .count | .string | .typeTag | .position | .tagged => none

/-- How wide the pieces are that a part is read in, where these bytes lie ahead. -/
def widths (k : PartKind) (ahead : Bytes) : List Nat :=
  match k with
  | .count => [4]
  | .string => [4, ofBigEndian (ahead.take 4)]
  | .typeTag => [1]
  | .position => 1 :: (ahead.head?.bind TypeTag.ofNumber?).elim [] fun _ => [8, 8, 8]
  | .tagged => 1 :: (ahead.head?.bind ValueTag.ofNumber?).elim [] fun t => [t.width]
  | k => k.width?.toList

theorem widths_of_width? {k : PartKind} {w : Nat} (h : k.width? = some w) (ahead : Bytes) :
    k.widths ahead = [w] := by
  cases k with
  | count | string | typeTag | position | tagged => exact absurd h nofun
  | _ => exact congrArg Option.toList h

open Read in
/-- Kinds of a fixed width are read in one go. -/
theorem takes_of_width? {k : PartKind} {w : Nat} (h : k.width? = some w) :
    ∃ make, Takes k.read w make := by
  cases k with
  | count | string | typeTag | position | tagged => exact absurd h nofun
  | uint8 => exact Option.some.inj h ▸ ⟨_, takes_uint8.map Part.uint8⟩
  | bool => exact Option.some.inj h ▸ ⟨_, (takes_uint8.map (· != 0)).map Part.bool⟩
  | uint16 => exact Option.some.inj h ▸ ⟨_, takes_uint16.map Part.uint16⟩
  | int16 => exact Option.some.inj h ▸ ⟨_, (takes_uint16.map UInt16.toInt16).map Part.int16⟩
  | uint32 => exact Option.some.inj h ▸ ⟨_, takes_uint32.map Part.uint32⟩
  | int32 => exact Option.some.inj h ▸ ⟨_, (takes_uint32.map UInt32.toInt32).map Part.int32⟩
  | uint64 => exact Option.some.inj h ▸ ⟨_, takes_uint64.map Part.uint64⟩
  | int64 => exact Option.some.inj h ▸ ⟨_, (takes_uint64.map UInt64.toInt64).map Part.int64⟩
  | float32 => exact Option.some.inj h ▸ ⟨_, takes_uint32.map Part.float32⟩
  | float64 => exact Option.some.inj h ▸ ⟨_, takes_uint64.map Part.float64⟩
  | bytes n => exact Option.some.inj h ▸ ⟨_, (takes_bytes n).map Part.bytes⟩
  | wireId => exact Option.some.inj h ▸ ⟨_, (takes_uint64.map WireId.mk).map Part.wireId⟩
  | untagged t => exact Option.some.inj h ▸ ⟨_, (takes_readPayload t).map Part.untagged⟩

/-- **A part is read in its pieces.** -/
theorem ends_read (k : PartKind) (c : Cursor) :
    Read.Ends k.read (k.widths c.rest) c (k.read.run c) := by
  cases hwidth : k.width? with
  | some w =>
    obtain ⟨make, hmake⟩ := takes_of_width? hwidth
    rw [widths_of_width? hwidth]
    exact .takes hmake c
  | none =>
    cases k with
    | count => exact Attempt.run_map .. ▸ (Read.ends_count c).map Part.count
    | string => exact Attempt.run_map .. ▸ (Read.ends_string c).map Part.string
    | typeTag => exact Attempt.run_map .. ▸ (Read.ends_typeTag c).map Part.typeTag
    | position => exact Attempt.run_map .. ▸ (Read.ends_position c).map Part.position
    | tagged => exact Attempt.run_map .. ▸ (Read.ends_value c).map Part.tagged
    | _ => exact absurd hwidth nofun

end PartKind

/-! ## Reads in a row -/

namespace Cursor

/-- Where a payload is read on after some parts, also after those that were refused. -/
def after (c : Cursor) (kinds : List PartKind) : Cursor :=
  kinds.foldl (fun c k => (k.read.run c).2) c

/-- The pieces of a part were read from the front, up to one that is not there; or all of them were,
and they mean nothing. -/
def StopsAt (c : Cursor) (widths : List Nat) (e : DecodeError) (d : Cursor) : Prop :=
  ∃ front back, widths = front ++ back ∧ front.sum ≤ c.remaining ∧ d = c.advance front.sum ∧
    ((back = [] ∧ e.isTruncated = false) ∨
      ∃ w more, back = w :: more ∧ d.remaining < w ∧ e = .truncated w d.position c.length)

/-- What it means to read a part in a payload. -/
structure Sound (payload : Bytes) (k : PartKind) (c : Cursor)
    (result : Except DecodeError Part × Cursor) : Prop where
  /-- The place does not go back, and stays in the payload. -/
  position_le : c.position ≤ result.2.position
  inside : In payload result.2
  /-- What is read in one go fails exactly if too few bytes are left. -/
  fails_iff : ∀ w, k.width? = some w → ((∃ e, result.1 = .error e) ↔ c.remaining < w)
  truncated : ∀ w, k.width? = some w → c.remaining < w →
    result = (.error (.truncated w c.position payload.length), c)
  /-- So it does if the place behind could not be told in 64 bits. -/
  overflows : ∀ w, k.width? = some w → payload.length < 2 ^ 64 → 2 ^ 64 ≤ c.position + w →
    result = (.error (.truncated w c.position payload.length), c)
  /-- Another part that fails stops behind the last of its pieces that was read. -/
  stops : k.width? = none → ∀ e, result.1 = .error e → StopsAt c (k.widths c.rest) e result.2
  /-- The bytes that were read alone decide what they are read as. -/
  decided : ∀ v n, result.1 = .ok v → n = result.2.position - c.position →
    ∀ other : Cursor, c.rest.take n <+: other.rest → k.read.run other = (.ok v, other.advance n)

variable {payload : Bytes} {c : Cursor}

/-- Where a read stops, its error tells what was missing there. -/
theorem stopsAt_of_ends {x : Read α} {widths : List Nat} {e : DecodeError}
    {r : Except DecodeError α × Cursor} (h : Read.Ends x widths c r) (he : r.1 = .error e) :
    StopsAt c widths e r.2 := by
  cases h with
  | whole => exact absurd he nofun
  | refused hfits hsense =>
    obtain rfl := Except.error.inj he
    exact ⟨widths, [], (List.append_nil _).symm, hfits, rfl, Or.inl ⟨rfl, hsense⟩⟩
  | @short front back w hwidths hfits hlt =>
    obtain rfl := Except.error.inj he
    refine ⟨front, w :: back, hwidths, hfits, rfl, Or.inr ⟨w, back, rfl, ?_, rfl⟩⟩
    rw [remaining_advance]
    omega

/-- **One part.** -/
theorem In.sound (h : In payload c) (k : PartKind) : Sound payload k c (k.read.run c) := by
  have hends := k.ends_read c
  obtain ⟨n, hn, hadvance⟩ := hends.exists_advance
  have hlength := h.length_eq
  have htruncated (w : Nat) (hw : k.width? = some w) (hlt : c.remaining < w) :
      k.read.run c = (.error (.truncated w c.position payload.length), c) := by
    obtain ⟨make, hmake⟩ := PartKind.takes_of_width? hw
    rw [hmake c, if_neg (Nat.not_le_of_lt hlt), hlength]
  refine
    { position_le := ?_
      inside := ?_
      fails_iff := fun w hw => ⟨?_, fun hlt => ⟨_, congrArg Prod.fst (htruncated w hw hlt)⟩⟩
      truncated := htruncated
      overflows := fun w hw hfits hover => htruncated w hw ?_
      stops := fun _ e he => stopsAt_of_ends hends he
      decided := ?_ }
  · rw [hadvance]
    exact Nat.le_add_right _ _
  · rw [hadvance]
    exact h.advance hn
  · rintro ⟨e, he⟩
    obtain ⟨make, hmake⟩ := PartKind.takes_of_width? hw
    refine Nat.lt_of_not_le fun hle => ?_
    rw [hmake c, if_pos hle] at he
    exact absurd he nofun
  · have hle := h.position_le
    rw [h.remaining_eq]
    omega
  · rintro v n hv rfl other hother
    exact hends.decided hv hother

/-- By induction on the reads, each of which goes forward or stays. -/
theorem position_le_after (c : Cursor) (kinds : List PartKind) :
    c.position ≤ (c.after kinds).position := by
  induction kinds generalizing c with
  | nil => exact Nat.le_refl _
  | cons k kinds ih =>
    obtain ⟨n, -, hadvance⟩ := (k.ends_read c).exists_advance
    refine Nat.le_trans ?_ (ih (k.read.run c).2)
    rw [hadvance]
    exact Nat.le_add_right _ _

/-- Reads after a failure go on from where it stopped, still inside. -/
theorem In.after (h : In payload c) (kinds : List PartKind) : In payload (c.after kinds) := by
  induction kinds generalizing c with
  | nil => exact h
  | cons k kinds ih => exact ih (h.sound k).inside

/-- **A payload is read within its bounds**, whatever parts are asked for one after the other, and
whichever of them are refused. -/
theorem sound_after (payload : Bytes) (kinds : List PartKind) :
    In payload ((start payload).after kinds) ∧
      ((start payload).after kinds).position + ((start payload).after kinds).remaining =
        payload.length ∧
      (∀ more, ((start payload).after kinds).position ≤
        ((start payload).after (kinds ++ more)).position) ∧
      ∀ k, Sound payload k ((start payload).after kinds)
        (k.read.run ((start payload).after kinds)) := by
  have hin := (in_start payload).after kinds
  refine ⟨hin, hin.length_eq, fun more => ?_, hin.sound⟩
  rw [after, after, List.foldl_append]
  exact position_le_after _ more

end Cursor
end DebugWire

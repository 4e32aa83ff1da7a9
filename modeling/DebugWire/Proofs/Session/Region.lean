import DebugWire.Proofs.Session.Answered
import DebugWire.Proofs.Session.Doing

/-!
# Proofs/Session/Region — regions of arrays, to the last byte

A debugger that asks for a region of an array is answered with the tag of the elements, their
number, and the elements, which it reads back as what the array holds there
(`Backend.regions_of_holdsArray`).  A region that lies within the array is never refused, and one
that does not always is.  Regions that are asked for one after the other have the elements of the
region that spans them, byte by byte.
-/

namespace DebugWire

open Registry

/-! ## The bounds -/

/-- Within the range, a sum of 32-bit numbers is their sum. -/
theorem toInt_add_of_bounds {a b : Int32} (hlow : 0 ≤ a.toInt + b.toInt)
    (hhigh : a.toInt + b.toInt < 2147483648) : (a + b).toInt = a.toInt + b.toInt := by
  rw [Int32.toInt_add]
  exact Int.bmod_eq_of_le (by omega) (by omega)

namespace Answer

/-- Where a part of a list may begin, in whole numbers. -/
theorem beginsOutside_iff (first : Int32) (size : Nat) :
    first < 0 ∨ size < first.toNatClampNeg ↔ ¬(0 ≤ first.toInt ∧ first.toInt ≤ size) := by
  rw [Int32.lt_iff_toInt_lt, Int32.toInt_zero, Int32.toNatClampNeg]
  omega

/-- The bounds of a region, in whole numbers. -/
theorem region_eq (first length : Int32) (size : Nat) : region first length size =
    if ¬(0 ≤ first.toInt ∧ first.toInt ≤ size) then .error .invalidIndex
    else if length.toInt < 0 ∨ size < first.toInt + length.toInt then .error .invalidLength
    else .ok (first.toInt.toNat, length.toInt.toNat) := by
  rw [region]
  refine ite_congr (propext (beginsOutside_iff first size)) (fun _ => rfl) fun hwithin => ?_
  have hlength : length < 0 ∨ size < first.toNatClampNeg + length.toNatClampNeg ↔
      length.toInt < 0 ∨ size < first.toInt + length.toInt := by
    rw [Int32.lt_iff_toInt_lt, Int32.toInt_zero, Int32.toNatClampNeg, Int32.toNatClampNeg]
    omega
  exact ite_congr (propext hlength) (fun _ => rfl) fun _ => rfl

end Answer

/-- The part of a list that begins at `first` and has `length` items. -/
def slice {α : Type} (xs : List α) (first length : Int32) : List α :=
  (xs.drop first.toInt.toNat).take length.toInt.toNat

section

variable {α : Type} {xs : List α} {first length m n : Int32}

theorem mem_of_mem_slice {x : α} (hx : x ∈ slice xs first length) : x ∈ xs :=
  List.mem_of_mem_drop (List.mem_of_mem_take hx)

theorem length_slice (hfirst : 0 ≤ first.toInt) (hlength : 0 ≤ length.toInt)
    (hend : first.toInt + length.toInt ≤ xs.length) :
    (slice xs first length).length = length.toInt.toNat := by
  rw [slice, List.length_take, List.length_drop]
  omega

/-- Two parts that follow each other. -/
theorem slice_add (hfirst : 0 ≤ first.toInt) (hm : 0 ≤ m.toInt) (hn : 0 ≤ n.toInt)
    (hfew : first.toInt + m.toInt + n.toInt < 2147483648) :
    slice xs first (m + n) = slice xs first m ++ slice xs (first + m) n := by
  have hboth : (m + n).toInt.toNat = m.toInt.toNat + n.toInt.toNat := by
    rw [toInt_add_of_bounds (by omega) (by omega)]
    omega
  have hnext : (first + m).toInt.toNat = first.toInt.toNat + m.toInt.toNat := by
    rw [toInt_add_of_bounds (by omega) (by omega)]
    omega
  rw [slice, slice, slice, hboth, hnext, List.take_add, List.drop_drop]

end

/-- A number that is no less than zero is written as a count. -/
theorem ofCount_toNat {length : Int32} (h : 0 ≤ length.toInt) :
    Bytes.ofCount length.toInt.toNat = Bytes.ofInt32 length := by
  have hsmall : length.toInt.toNat < 2 ^ 31 := by
    have := length.toInt_lt
    omega
  rw [Read.ofCount_eq hsmall]
  exact congrArg Bytes.ofInt32 (length.ofNat_toNatClampNeg (Int32.le_iff_toInt_le.mpr h))

/-! ## The elements -/

/-- An element of an array of elements with a given tag. -/
def Read.element (tag : ValueTag) : Read WireValue :=
  if tag.isPrimitive then WireValue.readPayload tag else value

/-- A region of an array: the tag of its elements, then the elements. -/
def Read.region : Read (ValueTag × List WireValue) := do
  let tag ← valueTag
  let values ← list (element tag)
  return (tag, values)

theorem Read.reads_region {tag : ValueTag} {items : Bytes} {wires : List WireValue}
    (h : Reads (list (element tag)) items wires) :
    Reads region ([tag.number] ++ items) (tag, wires) :=
  (reads_valueTag tag).bind (h.last rfl)

/-- Write an element of an array. -/
def Writing.element (tag : ValueTag) (v : TargetValue) : StateM Registry Body :=
  if tag.isPrimitive then Body.ofValue v <$> modifyGet (·.toWire v)
  else Body.ofTagged v <$> modifyGet (·.toWire v)

namespace Writing

variable {kinds : Handle → ObjectKind} {tag : ValueTag} {v : TargetValue}

/-- An element is read back, with a tag of its own if it is a reference. -/
theorem tells_element (hfits : v.fits tag) (hv : v.Suits kinds) :
    Tells kinds (element tag v) (Spells (Read.element tag) fun s w => s.fromWire w = .ok v) := by
  unfold element Read.element
  cases hv with
  | primitive p =>
    obtain rfl : tag = .primitive p.tag := of_decide_eq_true hfits
    refine .map ((tells_toWire (.primitive p)).mono fun w s hw => ?_)
    cases w with
    | primitive p' =>
      obtain rfl : p' = p := TargetValue.primitive.inj (Except.ok.inj hw)
      refine ⟨_, ?_, hw⟩
      rw [Body.bytes_ofValue]
      exact Read.reads_readPayload (.primitive p')
    | object k id =>
      obtain ⟨_, -, h⟩ := exists_of_map_eq_ok hw
      cases h
  | reference hkind =>
    have hreference : ¬ tag.isPrimitive := by simpa [TargetValue.fits] using hfits
    rw [if_neg hreference, if_neg hreference]
    refine .map ((tells_toWire (.reference hkind)).mono fun w s hw => ⟨w, ?_, hw⟩)
    rw [Body.bytes_ofTagged]
    exact Read.reads_value w

theorem steady_element (hv : v.Suits kinds) : Steady kinds (element tag v) := by
  unfold element
  split <;> exact (steady_toWire hv).map _

end Writing

theorem TargetValue.Suits.congr {kinds kinds' : Handle → ObjectKind} {v : TargetValue}
    (h : v.Suits kinds) (hsame : ∀ k handle, v = .reference k (some handle) →
      kinds' handle = kinds handle) : v.Suits kinds' := by
  cases h with
  | primitive p => exact .primitive p
  | reference hkind =>
    refine .reference ?_
    rintro x rfl k hk
    rw [hsame _ x rfl]
    exact hkind x rfl k hk

namespace Backend

/-- Ask for a region of an array. -/
def askRegion (b : Backend InMemory) (id : WireId) (first length : Int32) :
    Except String Reply × Backend InMemory :=
  b.ask .arrayValues (Bytes.ofWireId id ++ (Bytes.ofInt32 first ++ Bytes.ofInt32 length))

/-- The id names an array with these elements, which have the tag that the signature of its type
tells. -/
structure NamesArray (b : Backend InMemory) (id : WireId) (tag : ValueTag)
    (values : List TargetValue) (array type : Handle) (l : LoadedType) : Prop where
  resolves : b.registry.resolve id (.object .array) = .ok array
  array : b.target.objects[array]? = some (.array type values)
  type : b.target.types[type]? = some l
  tag : InMemory.TagsElements l.facts.signature tag

variable {b b' : Backend InMemory} {id : WireId} {tag : ValueTag} {values : List TargetValue}
  {array type : Handle} {l : LoadedType} {first length : Int32}

/-- **What a request for a region comes to.** -/
theorem perform_arrayValues (ht : b.target.Working) (h : b.NamesArray id tag values array type l)
    (first length : Int32) :
    Command.arrayValues.answer.perform
      (Bytes.ofWireId id ++ (Bytes.ofInt32 first ++ Bytes.ofInt32 length)) b =
    match Answer.region first length values.length with
    | .error code => (.error (.refused code), b)
    | .ok (first, length) =>
      let told := (Writing.list ((values.drop first).take length) (Writing.element tag)).run
        b.registry
      (.ok (Body.plain [tag.number] ++ told.1), { b with registry := told.2 }) := by
  have hsize : (Target.arrayLength array : TargetCall InMemory Nat).run b.target =
      (.ok values.length, b.target) := ht.run_lookUp_of_find (by rw [h.array])
  have htype : (Target.objectType array : TargetCall InMemory Handle).run b.target =
      (.ok type, b.target) := ht.run_lookUp_of_find (by rw [h.array]; rfl)
  rw [Action.perform, Command.answer, Answer.arrayValues, Cursor.start,
    Attempt.run_bind_of_ok (Action.run_entity h.resolves 0 _),
    Attempt.run_bind_of_ok (Action.run_read (Read.reads_int32 first) b _ _),
    Attempt.run_bind_of_ok (Action.run_read_last (Read.reads_int32 length) b _),
    Attempt.run_bind_of_ok (Action.run_call hsize)]
  cases hregion : Answer.region first length values.length with
  | error code => rfl
  | ok bounds =>
    obtain ⟨first, length⟩ := bounds
    have hle := Answer.region_eq_ok hregion
    have hvalues : (Target.arrayValues array first length :
        TargetCall InMemory (List TargetValue)).run b.target =
          (.ok ((values.drop first).take length), b.target) := by
      refine (ht.run_guarded _).trans ?_
      rw [Attempt.run_bind_of_ok (Attempt.run_get _), Attempt.run_ofExcept, InMemory.readRegion,
        h.array]
      exact congrArg (·, b.target) (if_pos hle)
    dsimp only
    have helements : Action.Does b.target
        (Action.list ((values.drop first).take length) fun v =>
          if tag.isPrimitive then Action.untagged v else Action.tagged v)
        (Writing.list ((values.drop first).take length) (Writing.element tag)) := by
      refine .list fun v _ => ?_
      unfold Writing.element
      split
      · exact .untagged v
      · exact .tagged v
    rw [Attempt.run_bind_of_ok (Action.run_call htype),
      Attempt.run_bind_of_ok (Action.run_call (ht.run_typeFacts h.type)),
      InMemory.componentTag?_eq_some_iff.mpr h.tag]
    dsimp only
    rw [Attempt.run_bind_of_ok (Action.run_call hvalues),
      Attempt.run_bind_of_ok (helements _ rfl)]
    rfl

theorem askRegion_eq (ht : b.target.Working) (h : b.NamesArray id tag values array type l)
    (first length : Int32) : b.askRegion id first length =
    match Answer.region first length values.length with
    | .error code => (.ok (.failed code), b)
    | .ok (first, length) =>
      let told := (Writing.list ((values.drop first).take length) (Writing.element tag)).run
        b.registry
      (.ok (.ok ([tag.number] ++ told.1.bytes)), { b with registry := told.2 }) := by
  have hperform := perform_arrayValues ht h first length
  cases hregion : Answer.region first length values.length with
  | error code =>
    rw [hregion] at hperform
    exact ask_of_error ht.isAlive hperform rfl
  | ok bounds =>
    rw [hregion] at hperform
    refine (ask_of_ok ht.isAlive hperform).trans ?_
    rw [Body.bytes_append, Body.bytes_plain]

/-- A region is answered with its elements, or refused by its bounds. -/
theorem NamesArray.cuts (h : b.NamesArray id tag values array type l) (ht : b.target.Working) :
    b.Cuts [tag.number] (Writing.element tag) (0 ≤ first.toInt ∧ first.toInt ≤ values.length)
      (0 ≤ length.toInt ∧ first.toInt + length.toInt ≤ values.length) (slice values first length)
      (b.askRegion id first length) := by
  rw [askRegion_eq ht h, Answer.region_eq]
  constructor
  · intro hout
    rw [if_pos hout]
  · intro hbegins hout
    rw [if_neg (not_not.mpr hbegins), if_pos (by omega)]
  · intro hbegins hends
    rw [if_neg (not_not.mpr hbegins), if_neg (by omega)]
    exact ⟨rfl, rfl⟩

/-- A region within the array is answered with its elements. -/
theorem NamesArray.lists (h : b.NamesArray id tag values array type l) (ht : b.target.Working)
    (hfirst : 0 ≤ first.toInt) (hlength : 0 ≤ length.toInt)
    (hend : first.toInt + length.toInt ≤ values.length) :
    b.Lists [tag.number] (Writing.element tag) (slice values first length)
      (b.askRegion id first length) :=
  (h.cuts ht).lists ⟨hfirst, by omega⟩ ⟨hlength, hend⟩

theorem NamesArray.keep (h : b.NamesArray id tag values array type l)
    (htarget : b'.target = b.target) (hextends : b.registry.Extends b'.registry) :
    b'.NamesArray id tag values array type l where
  resolves := hextends.resolve h.resolves
  array := htarget ▸ h.array
  type := htarget ▸ h.type
  tag := h.tag

/-! ## Every region -/

/-- The id names an array that can be told: it has fewer than 2³¹ elements, which are those of its
type, and what the table says of an object among them is what it is. -/
structure HoldsArray (b : Backend InMemory) (id : WireId) (tag : ValueTag)
    (values : List TargetValue) : Prop where
  names : ∃ array type l, b.NamesArray id tag values array type l
  many : values.length < 2 ^ 31
  fits : ∀ v ∈ values, v.fits tag
  kinds : ∃ kinds : Handle → ObjectKind, (∀ v ∈ values, v.Suits kinds) ∧
    ∀ k handle, .reference k (some handle) ∈ values → b.registry.KnownAs (kinds handle) handle

/-- The body that tells a region. -/
def regionBody (tag : ValueTag) (length : Int32) (elements : Bytes) : Bytes :=
  tag.number :: (Bytes.ofInt32 length ++ elements)

/-- What a debugger is told of an array. -/
structure Regions (b : Backend InMemory) (id : WireId) (tag : ValueTag)
    (values : List TargetValue) : Prop where
  /-- The first element is to lie within the array, or right behind it. -/
  invalidIndex_iff : ∀ first length, (b.askRegion id first length).1 =
    .ok (.failed .invalidIndex) ↔ ¬(0 ≤ first.toInt ∧ first.toInt ≤ values.length)
  /-- Then the number of elements is to be one that is there. -/
  invalidLength_iff : ∀ first length : Int32, 0 ≤ first.toInt → first.toInt ≤ values.length →
    ((b.askRegion id first length).1 = .ok (.failed .invalidLength) ↔
      length.toInt < 0 ∨ values.length < first.toInt + length.toInt)
  /-- Everything else is answered, and read to the last byte as what the array holds.  Ids stand
  for their objects by the table right after the answer. -/
  told : ∀ first length : Int32, 0 ≤ first.toInt → 0 ≤ length.toInt →
    first.toInt + length.toInt ≤ values.length →
    ∃ elements b', b.askRegion id first length =
        (.ok (.ok (regionBody tag length elements)), b') ∧
      (b'.registry.HasRoom → ∃ wires, Read.region.run (.start (regionBody tag length elements)) =
          (.ok (tag, wires), ⟨(regionBody tag length elements).length, []⟩) ∧
        List.Forall₂ (fun v w => b'.registry.fromWire w = .ok v) (slice values first length)
          wires)
  /-- Two regions in a row are told as the one that spans them, which leaves the same behind. -/
  parts : ∀ first m n : Int32, 0 ≤ first.toInt → 0 ≤ m.toInt → 0 ≤ n.toInt →
    first.toInt + m.toInt + n.toInt ≤ values.length →
    (b.askRegion id first (m + n)).2.registry.HasRoom →
    ∃ elements elements' b₁ b', b.askRegion id first (m + n) =
        (.ok (.ok (regionBody tag (m + n) (elements ++ elements'))), b') ∧
      b.askRegion id first m = (.ok (.ok (regionBody tag m elements)), b₁) ∧
      b₁.askRegion id (first + m) n = (.ok (.ok (regionBody tag n elements')), b')
  /-- A region that was told is told again, byte by byte, as long as nothing was taken away. -/
  again : ∀ first length body b₁, b.askRegion id first length = (.ok (.ok body), b₁) →
    b₁.registry.HasRoom → ∀ b' : Backend InMemory, b'.target = b.target → b'.registry.Reachable →
      b₁.registry.Extends b'.registry → (b'.askRegion id first length).2.registry.HasRoom →
        (b'.askRegion id first length).1 = .ok (.ok body)

/-- The table is uniform by kinds that suit the elements. -/
theorem HoldsArray.exists_uniform (h : b.HoldsArray id tag values)
    (hb : b.registry.WellFormed) :
    ∃ kinds, b.registry.Uniform kinds ∧ ∀ v ∈ values, v.Suits kinds := by
  obtain ⟨kinds, hsuits, hknown⟩ := h.kinds
  obtain ⟨kinds', huniform, hsame⟩ :=
    hb.exists_uniform (S := fun handle => ∃ k, .reference k (some handle) ∈ values)
      fun handle ⟨k, hmem⟩ => hknown k handle hmem
  refine ⟨kinds', huniform, fun v hv => (hsuits v hv).congr ?_⟩
  rintro k handle rfl
  exact hsame handle ⟨k, hv⟩

theorem HoldsArray.steady (h : b.HoldsArray id tag values) :
    ∃ kinds, ∀ first length, ∀ v ∈ slice values first length,
      Writing.Steady kinds (Writing.element tag v) := by
  obtain ⟨kinds, hsuits, -⟩ := h.kinds
  exact ⟨kinds, fun _ _ v hv => Writing.steady_element (hsuits v (mem_of_mem_slice hv))⟩

section

variable (h : b.HoldsArray id tag values) (hb : b.registry.Reachable) (ht : b.target.Working)

include h hb

/-- Where a region was told, the table was sound. -/
theorem HoldsArray.wellFormed {told : Except String Reply × Backend InMemory}
    (hlists : b.Lists [tag.number] (Writing.element tag) (slice values first length) told)
    (hroom : told.2.registry.HasRoom) : b.registry.WellFormed := by
  obtain ⟨kinds, hsteady⟩ := h.steady
  exact hb.wellFormed (hroom.of_later (hlists.later (hsteady first length)))

include ht

/-- **A region is read as what the array holds there.** -/
theorem HoldsArray.told (hfirst : 0 ≤ first.toInt) (hlength : 0 ≤ length.toInt)
    (hend : first.toInt + length.toInt ≤ values.length) :
    ∃ elements b', b.askRegion id first length =
        (.ok (.ok (regionBody tag length elements)), b') ∧
      (b'.registry.HasRoom → ∃ wires, Read.region.run (.start (regionBody tag length elements)) =
          (.ok (tag, wires), ⟨(regionBody tag length elements).length, []⟩) ∧
        List.Forall₂ (fun v w => b'.registry.fromWire w = .ok v) (slice values first length)
          wires) := by
  obtain ⟨array, type, l, hnames⟩ := h.names
  have hmany := h.many
  have hslice := length_slice hfirst hlength hend
  have hlists := hnames.lists ht hfirst hlength hend
  have hreply := hlists.reply_eq
  rw [hslice, ofCount_toNat hlength] at hreply
  refine ⟨_, _, Prod.ext hreply rfl, fun hroom => ?_⟩
  obtain ⟨kinds, huniform, hsuits⟩ := h.exists_uniform (h.wellFormed hb hlists hroom)
  have hwrite : ∀ v ∈ slice values first length, Writing.Tells kinds (Writing.element tag v)
      (Spells (Read.element tag) fun s w => s.fromWire w = .ok v) := fun v hv =>
    Writing.tells_element (h.fits v (mem_of_mem_slice hv)) (hsuits v (mem_of_mem_slice hv))
  obtain ⟨wires, hreads, hwires⟩ := hlists.tells (R := fun s v w => s.fromWire w = .ok v)
    (fun _ _ _ _ hs hw => hs.fromWire hw) (by omega) hwrite huniform hroom
  rw [hslice, ofCount_toNat hlength] at hreads
  exact ⟨wires, (Read.reads_region hreads).run_start, hwires⟩

/-- **Two regions in a row** are told as the one that spans them. -/
theorem HoldsArray.parts {m n : Int32} (hfirst : 0 ≤ first.toInt) (hm : 0 ≤ m.toInt)
    (hn : 0 ≤ n.toInt) (hend : first.toInt + m.toInt + n.toInt ≤ values.length)
    (hroom : (b.askRegion id first (m + n)).2.registry.HasRoom) :
    ∃ elements elements' b₁ b', b.askRegion id first (m + n) =
        (.ok (.ok (regionBody tag (m + n) (elements ++ elements'))), b') ∧
      b.askRegion id first m = (.ok (.ok (regionBody tag m elements)), b₁) ∧
      b₁.askRegion id (first + m) n = (.ok (.ok (regionBody tag n elements')), b') := by
  obtain ⟨array, type, l, hnames⟩ := h.names
  obtain ⟨kinds, hsteady⟩ := h.steady
  have hmany := h.many
  have hsum : (m + n).toInt = m.toInt + n.toInt := toInt_add_of_bounds (by omega) (by omega)
  have hnext : (first + m).toInt = first.toInt + m.toInt :=
    toInt_add_of_bounds (by omega) (by omega)
  have hone := hnames.lists ht hfirst hm (by omega)
  have hspan : b.Lists [tag.number] (Writing.element tag)
      (slice values first m ++ slice values (first + m) n) (b.askRegion id first (m + n)) := by
    rw [← slice_add hfirst hm hn (by omega)]
    exact hnames.lists ht hfirst (by omega) (by omega)
  have hroom₁ := hone.hasRoom_of_append hspan (hsteady _ _) hroom
  have hextends := hone.extending (hsteady _ _) (h.wellFormed hb hone hroom₁) hroom₁
  have htarget : (b.askRegion id first m).2.target = b.target := by rw [hone.after]
  have htwo : (b.askRegion id first m).2.Lists [tag.number] (Writing.element tag)
      (slice values (first + m) n) ((b.askRegion id first m).2.askRegion id (first + m) n) :=
    (hnames.keep htarget hextends).lists (htarget ▸ ht) (by omega) hn (by omega)
  obtain ⟨hafter, items, items', hreply, hreply', hwhole⟩ := hone.append htwo hspan
  rw [length_slice hfirst hm (by omega), ofCount_toNat hm] at hreply
  rw [length_slice (by omega) hn (by omega), ofCount_toNat hn] at hreply'
  rw [← slice_add hfirst hm hn (by omega), length_slice hfirst (by omega) (by omega),
    ofCount_toNat (by omega)] at hwhole
  exact ⟨items, items', _, _, Prod.ext hwhole rfl, Prod.ext hreply rfl,
    Prod.ext hreply' hafter.symm⟩

/-- **Asked again, a region is told as before**, as long as nothing was taken away. -/
theorem HoldsArray.again {body : Bytes} {b₁ b' : Backend InMemory}
    (htold : b.askRegion id first length = (.ok (.ok body), b₁)) (hroom : b₁.registry.HasRoom)
    (htarget : b'.target = b.target) (hb' : b'.registry.Reachable)
    (hextends : b₁.registry.Extends b'.registry)
    (hroom' : (b'.askRegion id first length).2.registry.HasRoom) :
    (b'.askRegion id first length).1 = .ok (.ok body) := by
  obtain ⟨array, type, l, hnames⟩ := h.names
  obtain ⟨⟨hfirst, -⟩, hlength, hend⟩ := (hnames.cuts ht).within_of_ok (congrArg Prod.fst htold)
  obtain rfl : (b.askRegion id first length).2 = b₁ := congrArg Prod.snd htold
  have hlists := hnames.lists ht hfirst hlength hend
  have hwf := h.wellFormed hb hlists hroom
  obtain ⟨kinds, huniform, hsuits⟩ := h.exists_uniform hwf
  have hsteady : ∀ v ∈ slice values first length,
      Writing.Steady kinds (Writing.element tag v) :=
    fun v hv => Writing.steady_element (hsuits v (mem_of_mem_slice hv))
  have hnames' := hnames.keep htarget ((hlists.extending hsteady hwf hroom).trans hextends)
  have hlists' := hnames'.lists (htarget ▸ ht) hfirst hlength hend
  have hwf' := hb'.wellFormed (hroom'.of_later (hlists'.later hsteady))
  exact (hlists.again hlists' hsteady huniform hroom hwf' hextends hroom').trans
    (congrArg Prod.fst htold)

end

/-- **Regions of arrays are exact**, on any table that came of calls. -/
theorem regions_of_holdsArray (hb : b.registry.Reachable) (ht : b.target.Working)
    (h : b.HoldsArray id tag values) : b.Regions id tag values where
  invalidIndex_iff first length := by
    obtain ⟨array, type, l, hnames⟩ := h.names
    exact (hnames.cuts ht).invalidIndex_iff
  invalidLength_iff first length hlow hhigh := by
    obtain ⟨array, type, l, hnames⟩ := h.names
    rw [(hnames.cuts ht).invalidLength_iff ⟨hlow, hhigh⟩]
    omega
  told _ _ := h.told hb ht
  parts _ _ _ := h.parts hb ht
  again _ _ _ _ htold hroom _ := h.again hb ht htold hroom

/-- A string, nothing, a plain object, and the string again. -/
def things : List TargetValue :=
  [.reference (.object .string) (some ⟨9⟩), .reference (.object .plain) none,
    .reference (.object .plain) (some ⟨10⟩), .reference (.object .string) (some ⟨9⟩)]

open InMemory in
/-- As `twoThreads`, where the frame has an array of things. -/
def withThings : InMemory :=
  let build : StateM InMemory Unit := do
    let _ ← addString "a"
    let _ ← addObject ⟨1⟩
    let array ← addArray (← addArrayType "[Ljava/lang/Object;") things
    modify (setLocal ⟨7⟩ 0 (.reference (.object .array) (some array)))
  (build.run twoThreads).2

/-- The type and the elements of what is an array. -/
def arrayOf : HeapObject → Option (Handle × List TargetValue)
  | .array type values => some (type, values)
  | _ => none

/-- An array is named by what can be looked up of it. -/
theorem exists_namesArray {signature : String}
    (hresolve : b.registry.resolve id (.object .array) = .ok array)
    (harray : b.target.objects[array]?.bind arrayOf = some (type, values))
    (htype : b.target.types[type]?.map (·.facts.signature) = some signature)
    (htag : InMemory.TagsElements signature tag) :
    ∃ array type l, b.NamesArray id tag values array type l := by
  obtain ⟨object, hobject, hof⟩ := Option.bind_eq_some_iff.mp harray
  obtain ⟨l, hl, rfl⟩ := Option.map_eq_some_iff.mp htype
  cases object <;> cases hof
  exact ⟨array, type, l, hresolve, hobject, hl, htag⟩

/-- The things, as a debugger that learned the id of the array finds them. -/
theorem holdsArray_things (hnew : Backend.new {} withThings = .ok b) :
    (b.after nameArray).HoldsArray ⟨6⟩ (.object .plain) things := by
  obtain rfl := Except.ok.inj hnew
  generalize hb : Backend.after _ nameArray = b
  have hresolve : b.registry.resolve ⟨6⟩ (.object .array) = .ok ⟨12⟩ := by
    rw [← hb]
    decide +kernel
  have harray : b.target.objects[(⟨12⟩ : Handle)]?.bind arrayOf = some (⟨11⟩, things) := by
    rw [← hb]
    decide +kernel
  have htype : b.target.types[(⟨11⟩ : Handle)]?.map (·.facts.signature) =
      some "[Ljava/lang/Object;" := by
    rw [← hb]
    decide +kernel
  have hknown : b.registry.KnownAs .string ⟨9⟩ ∧ b.registry.KnownAs .plain ⟨10⟩ := by
    rw [← hb]
    decide +kernel
  let kinds : Handle → ObjectKind := fun handle => if handle = ⟨9⟩ then .string else .plain
  have hsuits : ∀ v ∈ things, v.Suits kinds := by
    simp only [things, List.forall_mem_cons]
    refine ⟨.reference ?_, .reference nofun, .reference ?_, .reference ?_, nofun⟩ <;>
      rintro _ ⟨⟩ _ ⟨⟩ <;> decide
  refine ⟨exists_namesArray hresolve harray htype ⟨"java/lang/Object;".toList, by decide⟩,
    by decide, by decide, kinds, hsuits, ?_⟩
  intro k handle hmem
  have hobjects : handle = ⟨9⟩ ∨ handle = ⟨10⟩ := by
    simp only [things, List.mem_cons, TargetValue.reference.injEq] at hmem
    grind
  obtain rfl | rfl := hobjects
  · exact hknown.1
  · exact hknown.2

/-- Two numbers, as `withArray` has them. -/
def numbers : List TargetValue := [.primitive (.int 1), .primitive (.int 2)]

theorem holdsArray_numbers (hnew : Backend.new {} withArray = .ok b) :
    (b.after nameArray).HoldsArray ⟨6⟩ (.primitive .int) numbers := by
  obtain rfl := Except.ok.inj hnew
  generalize hb : Backend.after _ nameArray = b
  have hresolve : b.registry.resolve ⟨6⟩ (.object .array) = .ok ⟨9⟩ := by
    rw [← hb]
    decide +kernel
  have harray : b.target.objects[(⟨9⟩ : Handle)]?.bind arrayOf = some (⟨8⟩, numbers) := by
    rw [← hb]
    decide +kernel
  have htype : b.target.types[(⟨8⟩ : Handle)]?.map (·.facts.signature) = some "[I" := by
    rw [← hb]
    decide +kernel
  refine ⟨exists_namesArray hresolve harray htype ⟨[], by decide⟩, by decide, by decide,
    fun _ => .plain, ?_, ?_⟩
  · exact List.forall_mem_cons.mpr ⟨.primitive _, List.forall_mem_singleton.mpr (.primitive _)⟩
  · intro k handle hmem
    simp [numbers] at hmem

/-- The first and the last of the things get one id, and nothing gets none; numbers are told
without tags. -/
theorem regions_of_things : ∃ b c, Backend.new {} withThings = .ok b ∧
    Backend.new {} withArray = .ok c ∧
    ((b.after nameArray).askRegion ⟨6⟩ 1 3).1 = .ok (.ok (regionBody (.object .plain) 3
      [76, 0, 0, 0, 0, 0, 0, 0, 0, 76, 0, 0, 0, 0, 0, 0, 0, 7, 115, 0, 0, 0, 0, 0, 0, 0, 8])) ∧
    ((c.after nameArray).askRegion ⟨6⟩ 0 2).1 = .ok (.ok (regionBody (.primitive .int) 2
      [0, 0, 0, 1, 0, 0, 0, 2])) ∧
    (b.after nameArray).Regions ⟨6⟩ (.object .plain) things ∧
    (c.after nameArray).Regions ⟨6⟩ (.primitive .int) numbers := by
  have hb : Backend.new {} withThings = .ok _ := rfl
  have hc : Backend.new {} withArray = .ok _ := rfl
  refine ⟨_, _, hb, hc, by decide +kernel, by decide +kernel, ?_, ?_⟩
  · exact regions_of_holdsArray (reachable_of_new hb nameArray)
      ⟨by decide +kernel, by decide +kernel⟩ (holdsArray_things hb)
  · exact regions_of_holdsArray (reachable_of_new hc nameArray)
      ⟨by decide +kernel, by decide +kernel⟩ (holdsArray_numbers hc)

end Backend
end DebugWire

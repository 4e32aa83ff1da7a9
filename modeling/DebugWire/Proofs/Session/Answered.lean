import DebugWire.Proofs.Bytes.Utf8
import DebugWire.Proofs.Registry.Run
import DebugWire.Proofs.Session.FrameLife
import DebugWire.Proofs.Target.InMemory

/-!
# Proofs/Session/Answered — whatever is sent, it is answered

Over a target that is not broken and whose array types have components, every command with every
payload gets a reply, and a reply that tells an error has no body (`Backend.harmless_of_new`).  Only
one command can fail without a code of its own accord, the one that reads a region of an array, and
it does so where an array type has no component (`Answer.keeps_arrayValues_of_shaped`).  What is cut
out of a payload, a stack or an array lies within it.
-/

namespace DebugWire

/-! ## What is cut out -/

/-- Bytes are read from within the payload. -/
theorem Read.le_length_of_bytes {n : Nat} {c c' : Cursor} {bs : Bytes}
    (h : Attempt.run (Read.bytes n) c = (.ok bs, c')) :
    c.position + n ≤ c.length ∧ c'.length = c.length := by
  by_cases hle : n ≤ c.remaining
  · rw [Read.bytes_of_le hle] at h
    obtain ⟨-, rfl⟩ := Prod.mk.inj h
    exact ⟨Nat.add_le_add_left hle _, Cursor.length_advance hle⟩
  · rw [Read.bytes_of_lt (Nat.lt_of_not_le hle)] at h
    cases h

namespace Answer

variable {α : Type} {start length : Int32} {xs ys : List α}

/-- Where a page of a list of `n` items ends. -/
def pageEnd (start length : Int32) (n : Nat) : Nat :=
  if length = -1 then n else start.toNatClampNeg + length.toNatClampNeg

/-- A page lies within the list. -/
theorem page_eq_ok (h : page start length xs = .ok ys) :
    start.toNatClampNeg ≤ pageEnd start length xs.length ∧
      pageEnd start length xs.length ≤ xs.length ∧
      ys = xs.extract start.toNatClampNeg (pageEnd start length xs.length) := by
  unfold page at h
  split at h
  · cases h
  · next hstart =>
    rw [not_or, Nat.not_lt] at hstart
    simp only [List.length_drop] at h
    split at h
    · next hall =>
      obtain rfl := Except.ok.inj h
      rw [pageEnd, if_pos hall, List.extract_eq_take_drop]
      have hrest : (xs.drop start.toNatClampNeg).length ≤ xs.length - start.toNatClampNeg :=
        Nat.le_of_eq List.length_drop
      exact ⟨hstart.2, Nat.le_refl _, (List.take_of_length_le hrest).symm⟩
    · next hsome =>
      split at h
      · cases h
      · next hlength =>
        obtain rfl := Except.ok.inj h
        rw [pageEnd, if_neg hsome, List.extract_eq_take_drop, Nat.add_sub_cancel_left]
        refine ⟨Nat.le_add_right _ _, ?_, rfl⟩
        omega

/-- A region lies within the array. -/
theorem region_eq_ok {size first' length' : Nat}
    (h : region start length size = .ok (first', length')) : first' + length' ≤ size := by
  unfold region at h
  split at h
  · cases h
  · split at h
    · cases h
    · cases h
      omega

end Answer

/-! ## Tags and their characters -/

namespace ValueTag

theorem ofNumber?_eq_some_iff {n : UInt8} {tag : ValueTag} :
    ofNumber? n = some tag ↔ n = tag.number := by
  constructor
  · intro h
    exact (eq_of_beq (List.find?_some h :)).symm
  · rintro rfl
    exact ofNumber?_number tag

/-- The symbol of a tag is ASCII, and written as its number. -/
theorem encode_symbol (tag : ValueTag) : String.utf8EncodeChar tag.symbol = [tag.number] := by
  rcases tag with p | k
  · cases p <;> decide
  · cases k <;> decide

theorem toNat_symbol (tag : ValueTag) :
    tag.symbol.toNat = tag.number.toNat ∧ tag.number.toNat < 0x80 := by
  rcases tag with p | k
  · cases p <;> decide
  · cases k <;> decide

/-- **A signature tells the tag that its first character stands for**, and no other does. -/
theorem ofSignature?_eq_some_iff {cs : List Char} {tag : ValueTag} :
    ofSignature? (String.ofList cs) = some tag ↔ cs.head? = some tag.symbol := by
  cases cs with
  | nil => exact iff_of_false nofun nofun
  | cons c rest =>
    obtain ⟨b, bs, hbytes⟩ : ∃ b bs, String.utf8EncodeChar c = b :: bs :=
      List.exists_cons_of_length_pos (String.length_utf8EncodeChar c ▸ c.utf8Size_pos)
    have htag : ofSignature? (String.ofList (c :: rest)) = ofNumber? b := by
      simp [ofSignature?, Utf8.encode, hbytes]
    rw [htag, ofNumber?_eq_some_iff, List.head?_cons, Option.some_inj]
    constructor
    · rintro rfl
      have hc := Utf8.toNat_of_head hbytes tag.toNat_symbol.2
      exact Char.toNat_inj.mp (hc.trans tag.toNat_symbol.1.symm)
    · rintro rfl
      rw [encode_symbol] at hbytes
      exact (List.cons.inj hbytes).1.symm

end ValueTag

namespace InMemory

variable {t : InMemory}

/-- What is read of an array lies within it. -/
theorem readRegion_eq_ok {array : Handle} {first length : Nat} {values : List TargetValue}
    (h : t.readRegion array first length = .ok values) :
    ∃ type all, t.objects[array]? = some (.array type all) ∧ first + length ≤ all.length ∧
      values = all.extract first (first + length) := by
  unfold readRegion at h
  split at h
  · next type all hobject =>
    split at h
    · next hle =>
      obtain rfl := Except.ok.inj h
      refine ⟨type, all, hobject, hle, ?_⟩
      rw [List.extract_eq_take_drop, Nat.add_sub_cancel_left]
    · cases h
  · cases h

/-! ## Array types -/

/-- The signature is that of an array type: a bracket, and the character of a tag. -/
def isArraySignature (signature : String) : Bool :=
  match signature.toList with
  | '[' :: c :: _ => ValueTag.all.any (·.symbol = c)
  | _ => false

/-- Every array has the signature of an array type, as far as its type is loaded. -/
def ArraysShaped (t : InMemory) : Prop := ∀ (array type : Handle) (values : List TargetValue) l,
  t.objects[array]? = some (.array type values) → t.types[type]? = some l →
    isArraySignature l.facts.signature

/-- As `ArraysShaped`, for one object. -/
def shaped (t : InMemory) : HeapObject → Bool
  | .array type _ => (t.types[type]?).all (isArraySignature ·.facts.signature)
  | _ => true

theorem arraysShaped_iff : t.ArraysShaped ↔ ∀ o ∈ t.objects.toList, t.shaped o.2 := by
  constructor
  · rintro h ⟨handle, o⟩ ho
    rw [Std.TreeMap.mem_toList_iff_getElem?_eq_some] at ho
    cases o with
    | array type values =>
      rw [shaped, Option.all_eq_true]
      exact fun l hl => h handle type values l ho hl
    | _ => rfl
  · intro h array type values l hobject hl
    have hshaped := h (array, .array type values)
      (Std.TreeMap.mem_toList_iff_getElem?_eq_some.mpr hobject)
    rw [shaped, Option.all_eq_true] at hshaped
    exact hshaped l hl

instance : Decidable t.ArraysShaped := decidable_of_iff _ arraysShaped_iff.symm

/-- The signature of an array type tells the tag of the elements: the bracket, and the character
that stands for the tag. -/
def TagsElements (signature : String) (tag : ValueTag) : Prop :=
  ∃ rest, signature.toList = '[' :: tag.symbol :: rest

/-- The signatures of array types are those that tell a tag. -/
theorem isArraySignature_iff {signature : String} :
    isArraySignature signature ↔ ∃ tag, TagsElements signature tag := by
  constructor
  · intro h
    unfold isArraySignature at h
    split at h
    · next c rest hsignature =>
      obtain ⟨tag, -, hc⟩ := List.any_eq_true.mp h
      obtain rfl := of_decide_eq_true hc
      exact ⟨tag, rest, hsignature⟩
    · cases h
  · rintro ⟨tag, rest, hsignature⟩
    simp only [isArraySignature, hsignature]
    exact List.any_eq_true.mpr ⟨tag, ValueTag.mem_all tag, decide_eq_true rfl⟩

/-- **The tag of the elements is the one that the signature tells**, and there is none otherwise. -/
theorem componentTag?_eq_some_iff {signature : String} {tag : ValueTag} :
    Answer.componentTag? signature = some tag ↔ TagsElements signature tag := by
  unfold Answer.componentTag? TagsElements
  split
  · next element hsignature =>
    rw [ValueTag.ofSignature?_eq_some_iff, List.head?_eq_some_iff, hsignature]
    simp
  · next hother => exact iff_of_false nofun fun ⟨rest, hrest⟩ => hother _ hrest

end InMemory

/-! ## Commands -/

/-- The target is in a given state. -/
def Backend.HasTarget {σ : Type} (t : σ) (b : Backend σ) : Prop := b.target = t

namespace Answer

open DebugWire.Action

variable {t : InMemory}

/-- What the target is asked leaves it as it is. -/
theorem keeps_call_of_still {α : Type} {x : TargetCall InMemory α}
    (hx : Attempt.Keeps (· = t) TargetError.Reported x) :
    Action.Keeps (Backend.HasTarget t) CommandError.Told (call x) :=
  hx.within (fun _ h => h) (fun _ _ _ h => h) fun e he => by
    rwa [CommandError.Told, CommandError.replyCode_ofTarget]

theorem keeps_work {α : Type} (f : Registry → α × Registry) :
    Action.Keeps (Backend.HasTarget t) CommandError.Told (registry f : Action InMemory α) :=
  .ofStep fun _ hc => hc

theorem ok_of_call {α : Type} {x : TargetCall InMemory α} {c : Call InMemory} {a : α}
    (h : (Attempt.run (call x) c).1 = .ok a) : (Attempt.run x c.backend.target).1 = .ok a := by
  rw [call, Attempt.run_within] at h
  cases hrun : (Attempt.run x c.backend.target).1 with
  | ok b =>
    rw [hrun] at h
    exact congrArg Except.ok (Except.ok.inj h)
  | error e =>
    rw [hrun] at h
    cases h

/-- **A region of an array is read or refused**, where array types have components. -/
theorem keeps_arrayValues_of_shaped (hfault : t.fault = none) (hshaped : t.ArraysShaped) :
    Action.Keeps (Backend.HasTarget t) CommandError.Told (arrayValues : Action InMemory Body) := by
  have hblames : ∀ e : CommandError, e.Blames → e.Told := fun _ h => h.told
  have hI : ∀ u, u = t → u.fault = none := fun u hu => hu ▸ hfault
  refine (keeps_entity hblames _).bind fun array => (keeps_read hblames _).bind fun first => ?_
  refine (keeps_read hblames _).bind fun length => ?_
  refine (keeps_call_of_still (InMemory.keeps_lookUp hI _ _)).bind_of_ok fun size c hc hsize => ?_
  -- An array of known length is an array, so its type is that of an array.
  obtain ⟨type, values, hobject⟩ :
      ∃ type values, t.objects[array]? = some (.array type values) := by
    have hfind := InMemory.find_of_lookUp (hI _ hc) (ok_of_call hsize)
    rw [hc] at hfind
    split at hfind
    · exact ⟨_, _, ‹_›⟩
    · cases hfind
  cases region first length size with
  | error code => exact .throw nofun
  | ok cut =>
    refine Attempt.Keeps.bind_of_ok (keeps_call_of_still (InMemory.keeps_lookUp hI _ _))
      fun type' c' hc' htype => ?_
    obtain rfl : type' = type := by
      have hfind := InMemory.find_of_lookUp (hI _ hc') (ok_of_call htype)
      rw [hc', hobject] at hfind
      exact (Option.some.inj hfind).symm
    refine Attempt.Keeps.bind_of_ok (keeps_call_of_still (InMemory.keeps_lookUp hI _ _))
      fun facts c'' hc'' hfacts => ?_
    obtain ⟨tag, htag⟩ : ∃ tag, componentTag? facts.signature = some tag := by
      have hfind := InMemory.find_of_lookUp (hI _ hc'') (ok_of_call hfacts)
      obtain ⟨l, hl, rfl⟩ := Option.map_eq_some_iff.mp hfind
      rw [hc''] at hl
      obtain ⟨tag, htag⟩ :=
        InMemory.isArraySignature_iff.mp (hshaped array type' values l hobject hl)
      exact ⟨tag, InMemory.componentTag?_eq_some_iff.mpr htag⟩
    rw [htag]
    refine (keeps_call_of_still (InMemory.keeps_guarded hI ?_)).bind fun values => ?_
    · exact Attempt.Keeps.get.bind fun _ => .ofExcept fun _ => InMemory.reported_of_readRegion
    · refine (keeps_list (fun v => ?_) values).bind fun _ => .pure _
      exact .ite ((keeps_work _).map _) ((keeps_work _).map _)

end Answer

namespace Backend

open DebugWire.Action

variable {b : Backend InMemory} {known : List Command} {commandSet command : UInt8}
  {payload : Bytes}

/-- An unbroken target bears every command but the one that reads a region of an array. -/
theorem bears_unbroken : Bears (fun b : Backend InMemory => b.target.fault = none)
    CommandError.Told where
  registry _ _ hb := hb
  asked hx b hb := by
    obtain ⟨hkept, hreported⟩ := InMemory.reports hx b.target hb
    refine ⟨hkept, fun e he => ?_⟩
    rw [CommandError.Told, CommandError.replyCode_ofTarget]
    exact hreported e he
  told _ h := h

/-- Whatever is sent, what fails has a reply code. -/
theorem told_of_run (hfault : b.target.fault = none) (hshaped : b.target.ArraysShaped)
    {e : CommandError} (h : (b.run known commandSet command payload).1 = .error e) : e.Told := by
  cases hcarries : b.carries? known commandSet command with
  | none =>
    obtain hrun | hrun := run_of_carries_none hcarries payload <;> rw [hrun] at h <;>
      exact Except.error.inj h ▸ nofun
  | some c =>
    rw [run_of_carries hcarries] at h
    by_cases hc : c = .arrayValues
    · subst hc
      exact (Answer.keeps_arrayValues_of_shaped hfault hshaped ⟨b, .start payload⟩ rfl).2 e h
    · have hkeeps := c.keeps_answer bears_unbroken (fun _ _ _ htarget hb => htarget ▸ hb)
        fun hsame => absurd hsame hc
      exact (hkeeps ⟨b, .start payload⟩ hfault).2 e h

/-- What is told is a reply, and an error has no body. -/
theorem replies_of_told
    (h : ∀ e, (b.run known commandSet command payload).1 = .error e → e.Told) :
    ∃ reply, (b.dispatch known commandSet command payload).1 = .ok reply ∧
      (reply.code ≠ .none → reply.body = []) := by
  rcases hrun : b.run known commandSet command payload with ⟨e | body, c⟩
  · rw [hrun] at h
    obtain ⟨code, hcode⟩ := Option.ne_none_iff_exists'.mp (h e rfl)
    exact ⟨.failed code, by simp only [dispatch, hrun, hcode], fun _ => rfl⟩
  · exact ⟨.ok body.bytes, by simp only [dispatch, hrun], fun hcode => absurd rfl hcode⟩

/-- That nothing a debugger sends does any harm. -/
structure Harmless (b : Backend InMemory) : Prop where
  /-- Whatever is sent gets a reply, and an error has no body. -/
  replies : ∀ known commandSet command payload,
    ∃ reply, (b.dispatch known commandSet command payload).1 = .ok reply ∧
      (reply.code ≠ .none → reply.body = [])
  /-- Bytes are read from within the payload, -/
  bytes : ∀ (n : Nat) (c c' : Cursor) (bs : Bytes),
    Attempt.run (Read.bytes n) c = (.ok bs, c') →
      c.position + n ≤ c.length ∧ c'.length = c.length
  /-- a page is taken from within a stack, -/
  page : ∀ (start length : Int32) (stack selected : List FrameFacts),
    Answer.page start length stack = .ok selected →
      start.toNatClampNeg ≤ Answer.pageEnd start length stack.length ∧
        Answer.pageEnd start length stack.length ≤ stack.length ∧
        selected = stack.extract start.toNatClampNeg (Answer.pageEnd start length stack.length)
  /-- a region that is asked for lies within the array, -/
  region : ∀ (start length : Int32) (size first count : Nat),
    Answer.region start length size = .ok (first, count) → first + count ≤ size
  /-- and so does one that is read. -/
  values : ∀ array first count values, b.target.readRegion array first count = .ok values →
    ∃ type all, b.target.objects[array]? = some (.array type all) ∧
      first + count ≤ all.length ∧ values = all.extract first (first + count)
  /-- Whatever calls a command makes, a slot that is taken from the free ones is there. -/
  slots : ∀ ops, (b.registry.run ops).HasRoom → ∀ i ∈ (b.registry.run ops).free,
    i < (b.registry.run ops).slots.size

/-- **Whatever is sent, it is answered**, as long as the target is not broken and its array types
have components. -/
theorem harmless_of_new {settings : BackendSettings} {target : InMemory}
    (hnew : Backend.new settings target = .ok b) (hs : List (Happening InMemory))
    (hfault : (b.after hs).target.fault = none) (hshaped : (b.after hs).target.ArraysShaped) :
    (b.after hs).Harmless where
  replies _ _ _ _ := replies_of_told fun _ => told_of_run hfault hshaped
  bytes _ _ _ _ h := Read.le_length_of_bytes h
  page _ _ _ _ h := Answer.page_eq_ok h
  region _ _ _ _ _ h := Answer.region_eq_ok h
  values _ _ _ _ h := InMemory.readRegion_eq_ok h
  slots ops hroom := by
    have hb : b.registry.WellFormed := registry_of_new hnew ▸ Registry.WellFormed.new _ _
    have hwf := (follows_after hs b).wellFormed hb
      (hroom.of_later (Registry.follows_run ops _).later)
    exact ((hwf.run ops hroom).represents hroom).free_lt

/-- As `twoThreads`, where the frame has an array of two numbers. -/
def withArray : InMemory :=
  let build : StateM InMemory Unit := do
    let array ← InMemory.addArray (← InMemory.addArrayType "[I")
      [.primitive (.int 1), .primitive (.int 2)]
    modify (InMemory.setLocal ⟨7⟩ 0 (.reference (.object .array) (some array)))
  (build.run twoThreads).2

/-- A debugger learns the id 6 of the array. -/
def nameArray : List (Happening InMemory) :=
  suspendBoth ++ [.command Command.all 11 6 askFrames, .command Command.all 16 1
    (Bytes.ofWireId ⟨1⟩ ++ Bytes.ofWireId ⟨3⟩ ++ Bytes.ofInt32 1 ++ Bytes.ofInt32 0 ++ [91])]

/-- The array is read to its end, and no further. -/
theorem harmless_of_new_array : ∃ b, Backend.new {} withArray = .ok b ∧
    ((b.after nameArray).dispatch Command.all 13 2
      (Bytes.ofWireId ⟨6⟩ ++ Bytes.ofInt32 1 ++ Bytes.ofInt32 1)).1.toOption =
        some ⟨.none, [73, 0, 0, 0, 1, 0, 0, 0, 2]⟩ ∧
    ((b.after nameArray).dispatch Command.all 13 2
      (Bytes.ofWireId ⟨6⟩ ++ Bytes.ofInt32 1 ++ Bytes.ofInt32 2)).1.toOption =
        some ⟨.invalidLength, []⟩ ∧
    (b.after nameArray).Harmless := by
  have hruns : ∀ b, Backend.new {} withArray = .ok b →
      (b.after nameArray).target.fault = none ∧ (b.after nameArray).target.ArraysShaped ∧
      ((b.after nameArray).dispatch Command.all 13 2
        (Bytes.ofWireId ⟨6⟩ ++ Bytes.ofInt32 1 ++ Bytes.ofInt32 1)).1.toOption =
          some ⟨.none, [73, 0, 0, 0, 1, 0, 0, 0, 2]⟩ ∧
      ((b.after nameArray).dispatch Command.all 13 2
        (Bytes.ofWireId ⟨6⟩ ++ Bytes.ofInt32 1 ++ Bytes.ofInt32 2)).1.toOption =
          some ⟨.invalidLength, []⟩ := by
    rintro b ⟨rfl⟩
    decide +kernel
  have hnew : Backend.new {} withArray = .ok _ := rfl
  obtain ⟨hfault, hshaped, hread, hrefused⟩ := hruns _ hnew
  exact ⟨_, hnew, hread, hrefused, harmless_of_new hnew nameArray hfault hshaped⟩

end Backend
end DebugWire

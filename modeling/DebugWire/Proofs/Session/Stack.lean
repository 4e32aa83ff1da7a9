import DebugWire.Proofs.Session.Region

/-!
# Proofs/Session/Stack — pages of a stack, to the last byte

A debugger that asks for a page of the stack of a suspended thread is answered with the frames of
the page, the innermost first, and reads of each its id and its place
(`Backend.pages_of_holdsStack`).  A page is refused just when it does not lie within the stack; a
length of -1 asks for all that is left.  A frame takes up to three ids, and those that were written
first mean the same when the last one is.  So pages that follow each other have the frames, and the
ids, of the page that spans them.
-/

namespace DebugWire

open Registry

/-! ## The bounds -/

/-- The page of a list lies within it: so many items from `start` on, or all that are left. -/
def IsPage (size : Nat) (start length : Int32) : Prop :=
  length = -1 ∨ 0 ≤ length.toInt ∧ start.toInt + length.toInt ≤ size

instance (size : Nat) (start length : Int32) : Decidable (IsPage size start length) :=
  inferInstanceAs (Decidable (_ ∨ _))

/-- The page of a list that begins at `start`. -/
def pageOf {α : Type} (xs : List α) (start length : Int32) : List α :=
  if length = -1 then xs.drop start.toInt.toNat else slice xs start length

/-- The length of a page and the one that follows it. -/
def spanned (m n : Int32) : Int32 := if n = -1 then -1 else m + n

section

variable {α : Type} {xs : List α} {start length m n : Int32}

theorem mem_of_mem_pageOf {x : α} (hx : x ∈ pageOf xs start length) : x ∈ xs := by
  unfold pageOf at hx
  split at hx
  · exact List.mem_of_mem_drop hx
  · exact mem_of_mem_slice hx

theorem length_pageOf_le : (pageOf xs start length).length ≤ xs.length := by
  unfold pageOf slice
  split
  · exact Nat.le_trans (Nat.le_of_eq List.length_drop) (Nat.sub_le _ _)
  · rw [List.length_take, List.length_drop]
    omega

/-- A length that is no less than zero is none that asks for the rest. -/
theorem ne_rest_of_nonneg (h : 0 ≤ length.toInt) : length ≠ -1 := by
  rintro rfl
  exact absurd h (by decide)

/-- Two pages in a row. -/
theorem pageOf_spanned (hstart : 0 ≤ start.toInt) (hm : 0 ≤ m.toInt)
    (hfirst : start.toInt + m.toInt ≤ xs.length) (hnext : IsPage xs.length (start + m) n)
    (hfew : xs.length < 2 ^ 31) :
    pageOf xs start (spanned m n) = pageOf xs start m ++ pageOf xs (start + m) n := by
  have hadd : (start + m).toInt = start.toInt + m.toInt :=
    toInt_add_of_bounds (by omega) (by omega)
  obtain rfl | ⟨hn, hend⟩ := hnext
  · have hdrop : (start + m).toInt.toNat = start.toInt.toNat + m.toInt.toNat := by omega
    rw [pageOf, spanned, if_pos rfl, if_pos rfl, pageOf, if_neg (ne_rest_of_nonneg hm), pageOf,
      if_pos rfl, slice, hdrop, ← List.drop_drop, List.take_append_drop]
  · have hsum : (m + n).toInt = m.toInt + n.toInt := toInt_add_of_bounds (by omega) (by omega)
    rw [spanned, if_neg (ne_rest_of_nonneg hn), pageOf, if_neg (ne_rest_of_nonneg (by omega)),
      pageOf, if_neg (ne_rest_of_nonneg hm), pageOf, if_neg (ne_rest_of_nonneg hn)]
    exact slice_add hstart hm hn (by omega)

/-- Two pages in a row lie within the list as one. -/
theorem isPage_spanned {size : Nat} (hstart : 0 ≤ start.toInt) (hm : 0 ≤ m.toInt)
    (hfirst : start.toInt + m.toInt ≤ size) (hnext : IsPage size (start + m) n)
    (hfew : size < 2 ^ 31) : IsPage size start (spanned m n) := by
  have hadd : (start + m).toInt = start.toInt + m.toInt :=
    toInt_add_of_bounds (by omega) (by omega)
  obtain rfl | ⟨hn, hend⟩ := hnext
  · exact Or.inl rfl
  · have hsum : (m + n).toInt = m.toInt + n.toInt := toInt_add_of_bounds (by omega) (by omega)
    rw [spanned, if_neg (ne_rest_of_nonneg hn)]
    exact Or.inr ⟨by omega, by omega⟩

end

/-- The bounds of a page, in whole numbers. -/
theorem Answer.page_eq {α : Type} (start length : Int32) (xs : List α) : page start length xs =
    if ¬(0 ≤ start.toInt ∧ start.toInt ≤ xs.length) then .error .invalidIndex
    else if ¬IsPage xs.length start length then .error .invalidLength
    else .ok (pageOf xs start length) := by
  rw [page]
  refine ite_congr (propext (beginsOutside_iff start xs.length)) (fun _ => rfl) fun hwithin => ?_
  by_cases hrest : length = -1
  · have hpage : IsPage xs.length start length := Or.inl hrest
    rw [if_pos hrest, if_neg (not_not.mpr hpage), pageOf, if_pos hrest]
    rfl
  · have hlength : length < 0 ∨
        (xs.drop start.toNatClampNeg).length < length.toNatClampNeg ↔
          ¬IsPage xs.length start length := by
      rw [IsPage, or_iff_right hrest, List.length_drop, Int32.lt_iff_toInt_lt, Int32.toInt_zero,
        Int32.toNatClampNeg, Int32.toNatClampNeg]
      omega
    rw [if_neg hrest, pageOf, if_neg hrest]
    exact ite_congr (propext hlength) (fun _ => rfl) fun _ => rfl

/-! ## The frames -/

/-- A frame of a stack: its id, and where it is. -/
def Read.frame : Read (WireId × Position) := do
  let id ← wireId
  let place ← position
  return (id, place)

/-- The type that declares a method, and its tag. -/
def InMemory.declaring? (t : InMemory) (method : Handle) : Option (Handle × TypeTag) := do
  let m ← t.methods[method]?
  let l ← t.types[m.facts.declaringType]?
  return (m.facts.declaringType, l.facts.typeTag)

/-- The table gives a frame back, and its place as one that the method and its type have. -/
structure FrameFacts.Says (t : InMemory) (r : Registry) (f : FrameFacts)
    (row : WireId × Position) : Prop where
  frame : r.resolve row.1 .frame = .ok f.frame
  place : ∃ type tag, t.declaring? f.method = some (type, tag) ∧
    r.readPosition.run (.start (Bytes.ofPosition row.2)) =
      (.ok ⟨row.2, type, f.method⟩, ⟨25, []⟩)
  index : row.2.index = f.index

/-- A position that was written is read by just the tables that bear it out. -/
theorem Registry.run_readPosition_ofPosition_iff {r : Registry} {w : Position}
    {type method : Handle} : r.readPosition.run (.start (Bytes.ofPosition w)) =
      (.ok ⟨w, type, method⟩, ⟨25, []⟩) ↔ r.Bears ⟨w, type, method⟩ := by
  rw [Cursor.start, ← List.append_nil (Bytes.ofPosition w),
    run_readPosition_eq_ok_iff (length_ofPosition w)]
  simp only [true_and, Nat.zero_add]

theorem FrameFacts.Says.mono {t : InMemory} {r s : Registry} {f : FrameFacts}
    {row : WireId × Position} (h : f.Says t r row) (hs : Extends r s) : f.Says t s row := by
  obtain ⟨hframe, ⟨type, tag, hdeclaring, hread⟩, hindex⟩ := h
  have hbears := run_readPosition_ofPosition_iff.mp hread
  exact ⟨hs.resolve hframe,
    ⟨type, tag, hdeclaring, run_readPosition_ofPosition_iff.mpr (hbears.extend hs)⟩, hindex⟩

namespace Writing

variable {kinds : Handle → ObjectKind} {t : InMemory} {f : FrameFacts}

/-- Write a frame of a stack. -/
def frame (t : InMemory) (f : FrameFacts) : StateM Registry Body := do
  let id ← Body.ofEntity f.frame <$> modifyGet (·.register f.frame .frame)
  match t.declaring? f.method with
  | some (type, tag) => return id ++ (← place type tag f.method f.index)
  | none => return id

theorem suits_frame (handle : Handle) : EntityKind.frame.Suits kinds handle :=
  .of_not_object Bool.false_ne_true

/-- A frame is read back. -/
theorem tells_frame (hknown : (t.declaring? f.method).isSome) :
    Tells kinds (frame t f) (Spells Read.frame fun s row => f.Says t s row) := by
  obtain ⟨⟨type, tag⟩, hdeclaring⟩ := Option.isSome_iff_exists.mp hknown
  unfold frame
  rw [hdeclaring]
  refine (tells_idOf (suits_frame f.frame)).bind
    (Spells.lasting fun _ _ _ hs h => hs.resolve h) fun head => ?_
  refine (tells_place type tag f.method f.index).bind (Spells.lasting ?_) fun place => ?_
  · exact fun _ _ _ hs h => ⟨h.1.extend hs, h.2⟩
  refine .pure fun s hplace hframe => ?_
  obtain ⟨p, hreadPlace, hbears, hindex⟩ := hplace
  obtain ⟨id, hreadId, hresolve⟩ := hframe
  have hread := run_readPosition_ofPosition_iff.mpr hbears
  refine ⟨(id, p), ?_, hresolve, ⟨type, tag, hdeclaring, hread⟩, hindex⟩
  rw [Body.bytes_append]
  exact hreadId.bind (hreadPlace.last rfl)

theorem steady_frame : Steady kinds (frame t f) := by
  refine .bind ((steady_register (suits_frame f.frame)).map _) fun id => ?_
  split
  · exact (steady_place _ _ _ _).bind fun _ => .pure _
  · exact .pure _

end Writing

/-- A frame of a thread is written so. -/
theorem Action.Does.frame {t : InMemory} (ht : t.Working) {f : FrameFacts}
    (hknown : (t.declaring? f.method).isSome) :
    Does t (do
      let id ← Action.idOf f.frame .frame
      return id ++ (← Action.place f.method f.index)) (Writing.frame t f) := by
  obtain ⟨⟨type, tag⟩, hdeclaring⟩ := Option.isSome_iff_exists.mp hknown
  have hparts := hdeclaring
  rw [InMemory.declaring?] at hparts
  obtain ⟨m, hm, hparts⟩ := Option.bind_eq_some_iff.mp hparts
  obtain ⟨l, hl, hparts⟩ := Option.bind_eq_some_iff.mp hparts
  cases hparts
  unfold Writing.frame
  rw [hdeclaring]
  refine (idOf f.frame .frame).bind fun id => ?_
  exact (place f.index (ht.run_methodFacts hm) (ht.run_typeFacts hl)).bind fun _ => .pure _

namespace Backend

/-- Ask for a page of the stack of a thread. -/
def askPage (b : Backend InMemory) (id : WireId) (start length : Int32) :
    Except String Reply × Backend InMemory :=
  b.ask .frames (Bytes.ofWireId id ++ (Bytes.ofInt32 start ++ Bytes.ofInt32 length))

/-- The id names a suspended thread with these frames, of which it is known where they are. -/
structure HoldsStack (b : Backend InMemory) (id : WireId) (thread : Handle)
    (frames : List FrameFacts) : Prop where
  resolves : b.registry.resolve id (.object .thread) = .ok thread
  suspended : b.suspension.isSuspended thread
  stack : b.target.threads[thread]?.map (·.frames) = some frames
  known : ∀ f ∈ frames, (b.target.declaring? f.method).isSome
  few : frames.length < 2 ^ 31

variable {b b' : Backend InMemory} {id : WireId} {thread : Handle} {frames : List FrameFacts}
  {start length : Int32}

/-- **What a request for a page comes to.** -/
theorem perform_frames (ht : b.target.Working) (h : b.HoldsStack id thread frames)
    (start length : Int32) :
    Command.frames.answer.perform
      (Bytes.ofWireId id ++ (Bytes.ofInt32 start ++ Bytes.ofInt32 length)) b =
    match Answer.page start length frames with
    | .error code => (.error (.refused code), b)
    | .ok selected =>
      let told := (Writing.list selected (Writing.frame b.target)).run b.registry
      (.ok told.1, { b with registry := told.2 }) := by
  have hstack : (Target.frames thread : TargetCall InMemory (List FrameFacts)).run b.target =
      (.ok frames, b.target) := ht.run_lookUp_of_find h.stack
  have hstackOf : ∀ c : Call InMemory, c.backend = b →
      (Answer.stackOf thread).run c = (.ok frames, c) := by
    rintro c rfl
    have hsuspended : (Answer.isSuspended thread : Action InMemory Bool).run c = (.ok true, c) :=
      congrArg (fun suspended => (Except.ok suspended, c)) h.suspended
    rw [Answer.stackOf, Attempt.run_bind_of_ok hsuspended]
    exact Action.run_call hstack
  rw [Action.perform, Command.answer, Answer.frames, Answer.thread, Cursor.start,
    Attempt.run_bind_of_ok (Action.run_entity h.resolves 0 _),
    Attempt.run_bind_of_ok (Action.run_read (Read.reads_int32 start) b _ _),
    Attempt.run_bind_of_ok (Action.run_read_last (Read.reads_int32 length) b _),
    Attempt.run_bind_of_ok (hstackOf _ rfl)]
  cases hpage : Answer.page start length frames with
  | error code => rfl
  | ok selected =>
    have hmem : ∀ f ∈ selected, f ∈ frames := by
      obtain ⟨-, -, rfl⟩ := Answer.page_eq_ok hpage
      rw [List.extract_eq_take_drop]
      exact fun f hf => List.mem_of_mem_drop (List.mem_of_mem_take hf)
    have hframes := Action.Does.list fun f hf => Action.Does.frame ht (h.known f (hmem f hf))
    dsimp only
    rw [hframes _ rfl]
    rfl

theorem askPage_eq (ht : b.target.Working) (h : b.HoldsStack id thread frames)
    (start length : Int32) : b.askPage id start length =
    match Answer.page start length frames with
    | .error code => (.ok (.failed code), b)
    | .ok selected =>
      let told := (Writing.list selected (Writing.frame b.target)).run b.registry
      (.ok (.ok told.1.bytes), { b with registry := told.2 }) := by
  have hperform := perform_frames ht h start length
  cases hpage : Answer.page start length frames with
  | error code =>
    rw [hpage] at hperform
    exact ask_of_error ht.isAlive hperform rfl
  | ok selected =>
    rw [hpage] at hperform
    exact ask_of_ok ht.isAlive hperform

namespace HoldsStack

/-- A page is answered with its frames, or refused by its bounds. -/
theorem cuts (h : b.HoldsStack id thread frames) (ht : b.target.Working) :
    b.Cuts [] (Writing.frame b.target) (0 ≤ start.toInt ∧ start.toInt ≤ frames.length)
      (IsPage frames.length start length) (pageOf frames start length)
      (b.askPage id start length) := by
  rw [askPage_eq ht h, Answer.page_eq]
  constructor
  · intro hout
    rw [if_pos hout]
  · intro hbegins hout
    rw [if_neg (not_not.mpr hbegins), if_pos hout]
  · intro hbegins hends
    rw [if_neg (not_not.mpr hbegins), if_neg (not_not.mpr hends)]
    exact ⟨rfl, rfl⟩

theorem keep (h : b.HoldsStack id thread frames) (htarget : b'.target = b.target)
    (hsuspended : b'.suspension.isSuspended thread)
    (hextends : b.registry.Extends b'.registry) : b'.HoldsStack id thread frames where
  resolves := hextends.resolve h.resolves
  suspended := hsuspended
  stack := htarget ▸ h.stack
  known := htarget ▸ h.known
  few := h.few

end HoldsStack

/-! ## Every page -/

/-- The body that tells a page: how many frames it has, then each of them. -/
def pageBody (page : List FrameFacts) (rows : Bytes) : Bytes := Bytes.ofCount page.length ++ rows

/-- What a debugger is told of a stack. -/
structure Pages (b : Backend InMemory) (id : WireId) (thread : Handle)
    (frames : List FrameFacts) : Prop where
  /-- The first frame is to lie within the stack, or right behind it. -/
  invalidIndex_iff : ∀ start length, (b.askPage id start length).1 =
    .ok (.failed .invalidIndex) ↔ ¬(0 ≤ start.toInt ∧ start.toInt ≤ frames.length)
  /-- Then the number of frames is to be one that is there, or the one that asks for all. -/
  invalidLength_iff : ∀ start length : Int32, 0 ≤ start.toInt → start.toInt ≤ frames.length →
    ((b.askPage id start length).1 = .ok (.failed .invalidLength) ↔
      ¬IsPage frames.length start length)
  /-- Everything else is answered, and read to the last byte as the frames of the page.  Ids stand
  for what they name by the table right after the answer. -/
  told : ∀ start length : Int32, 0 ≤ start.toInt → start.toInt ≤ frames.length →
    IsPage frames.length start length →
    ∃ body b', b.askPage id start length = (.ok (.ok body), b') ∧
      (b'.registry.HasRoom → ∃ rows, (Read.list Read.frame).run (.start body) =
          (.ok rows, ⟨body.length, []⟩) ∧
        List.Forall₂ (FrameFacts.Says b.target b'.registry) (pageOf frames start length) rows)
  /-- Two pages in a row are told as the one that spans them, which leaves the same behind. -/
  parts : ∀ start m n : Int32, 0 ≤ start.toInt → 0 ≤ m.toInt →
    start.toInt + m.toInt ≤ frames.length → IsPage frames.length (start + m) n →
    (b.askPage id start (spanned m n)).2.registry.HasRoom →
    ∃ rows rows' b₁ b',
      b.askPage id start (spanned m n) =
        (.ok (.ok (pageBody (pageOf frames start (spanned m n)) (rows ++ rows'))), b') ∧
      b.askPage id start m = (.ok (.ok (pageBody (pageOf frames start m) rows)), b₁) ∧
      b₁.askPage id (start + m) n = (.ok (.ok (pageBody (pageOf frames (start + m) n) rows')), b')
  /-- A page that was told is told again, byte by byte, as long as nothing was taken away. -/
  again : ∀ start length body b₁, b.askPage id start length = (.ok (.ok body), b₁) →
    b₁.registry.HasRoom → ∀ b' : Backend InMemory, b'.target = b.target →
      b'.suspension.isSuspended thread → b'.registry.Reachable →
        b₁.registry.Extends b'.registry → (b'.askPage id start length).2.registry.HasRoom →
          (b'.askPage id start length).1 = .ok (.ok body)

/-- Where a page was told, the table was uniform by some kinds. -/
theorem exists_uniform_of_lists {xs : List FrameFacts} {t : InMemory}
    {told : Except String Reply × Backend InMemory} (hb : b.registry.Reachable)
    (hlists : b.Lists [] (Writing.frame t) xs told) (hroom : told.2.registry.HasRoom) :
    ∃ kinds, b.registry.Uniform kinds := by
  have hsteady : ∀ f ∈ xs, Writing.Steady (fun _ => .plain) (Writing.frame t f) :=
    fun _ _ => Writing.steady_frame
  exact (hb.wellFormed (hroom.of_later (hlists.later hsteady))).exists_kinds

section

variable (h : b.HoldsStack id thread frames) (hb : b.registry.Reachable) (ht : b.target.Working)

include h hb ht

/-- **A page is read as the frames that are there.** -/
theorem HoldsStack.told (hlow : 0 ≤ start.toInt) (hhigh : start.toInt ≤ frames.length)
    (hpage : IsPage frames.length start length) :
    ∃ body b', b.askPage id start length = (.ok (.ok body), b') ∧
      (b'.registry.HasRoom → ∃ rows, (Read.list Read.frame).run (.start body) =
          (.ok rows, ⟨body.length, []⟩) ∧
        List.Forall₂ (FrameFacts.Says b.target b'.registry) (pageOf frames start length) rows) := by
  have hmany : (pageOf frames start length).length < 2 ^ 31 :=
    Nat.lt_of_le_of_lt length_pageOf_le h.few
  have hlists := (h.cuts ht).lists ⟨hlow, hhigh⟩ hpage
  refine ⟨_, _, Prod.ext hlists.reply_eq rfl, fun hroom => ?_⟩
  obtain ⟨kinds, huniform⟩ := exists_uniform_of_lists hb hlists hroom
  have hwrite : ∀ f ∈ pageOf frames start length, Writing.Tells kinds
      (Writing.frame b.target f) (Spells Read.frame fun s row => f.Says b.target s row) :=
    fun f hf => Writing.tells_frame (h.known f (mem_of_mem_pageOf hf))
  have hlasting : ∀ (f : FrameFacts) row, Lasting fun s => f.Says b.target s row :=
    fun _ _ _ _ hs hsays => hsays.mono hs
  obtain ⟨rows, hreads, hrows⟩ := hlists.tells hlasting hmany hwrite huniform hroom
  exact ⟨rows, hreads.run_start, hrows⟩

/-- **Two pages in a row** are told as the one that spans them. -/
theorem HoldsStack.parts {m n : Int32} (hstart : 0 ≤ start.toInt) (hm : 0 ≤ m.toInt)
    (hfirst : start.toInt + m.toInt ≤ frames.length) (hnext : IsPage frames.length (start + m) n)
    (hroom : (b.askPage id start (spanned m n)).2.registry.HasRoom) :
    ∃ rows rows' b₁ b',
      b.askPage id start (spanned m n) =
        (.ok (.ok (pageBody (pageOf frames start (spanned m n)) (rows ++ rows'))), b') ∧
      b.askPage id start m = (.ok (.ok (pageBody (pageOf frames start m) rows)), b₁) ∧
      b₁.askPage id (start + m) n =
        (.ok (.ok (pageBody (pageOf frames (start + m) n) rows')), b') := by
  have hfew := h.few
  have hadd : (start + m).toInt = start.toInt + m.toInt :=
    toInt_add_of_bounds (by omega) (by omega)
  have hspanned := pageOf_spanned hstart hm hfirst hnext hfew
  have hone := (h.cuts ht).lists ⟨hstart, by omega⟩ (Or.inr ⟨hm, hfirst⟩)
  have hspan := (h.cuts ht).lists ⟨hstart, by omega⟩ (isPage_spanned hstart hm hfirst hnext hfew)
  rw [hspanned] at hspan
  have hsteady : ∀ xs : List FrameFacts, ∀ f ∈ xs,
      Writing.Steady (fun _ => .plain) (Writing.frame b.target f) :=
    fun _ _ _ => Writing.steady_frame
  have hroom₁ := hone.hasRoom_of_append hspan (hsteady _) hroom
  have hwf : b.registry.WellFormed := hb.wellFormed (hroom₁.of_later (hone.later (hsteady _)))
  have htarget : (b.askPage id start m).2.target = b.target := by rw [hone.after]
  have hsuspended : (b.askPage id start m).2.suspension.isSuspended thread := by
    rw [hone.after]
    exact h.suspended
  have hnames := h.keep htarget hsuspended (hone.extending (hsteady _) hwf hroom₁)
  have htwo := (hnames.cuts (htarget ▸ ht)).lists ⟨by omega, by omega⟩ hnext
  rw [htarget] at htwo
  obtain ⟨hafter, rows, rows', hreply, hreply', hwhole⟩ := hone.append htwo hspan
  rw [← hspanned] at hwhole
  exact ⟨rows, rows', _, _, Prod.ext hwhole rfl, Prod.ext hreply rfl,
    Prod.ext hreply' hafter.symm⟩

/-- **Asked again, a page is told as before**, as long as nothing was taken away. -/
theorem HoldsStack.again {body : Bytes} {b₁ b' : Backend InMemory}
    (htold : b.askPage id start length = (.ok (.ok body), b₁)) (hroom : b₁.registry.HasRoom)
    (htarget : b'.target = b.target) (hsuspended : b'.suspension.isSuspended thread)
    (hb' : b'.registry.Reachable) (hextends : b₁.registry.Extends b'.registry)
    (hroom' : (b'.askPage id start length).2.registry.HasRoom) :
    (b'.askPage id start length).1 = .ok (.ok body) := by
  obtain ⟨hbegins, hpage⟩ := (h.cuts ht).within_of_ok (congrArg Prod.fst htold)
  obtain rfl : (b.askPage id start length).2 = b₁ := congrArg Prod.snd htold
  have hlists := (h.cuts ht).lists hbegins hpage
  obtain ⟨kinds, huniform⟩ := exists_uniform_of_lists hb hlists hroom
  have hsteady : ∀ f ∈ pageOf frames start length,
      Writing.Steady kinds (Writing.frame b.target f) := fun _ _ => Writing.steady_frame
  have hstays := (hlists.extending hsteady huniform.wellFormed hroom).trans hextends
  have hnames' := h.keep htarget hsuspended hstays
  have hlists' := (hnames'.cuts (htarget ▸ ht)).lists hbegins hpage
  rw [htarget] at hlists'
  have hwf' := hb'.wellFormed (hroom'.of_later (hlists'.later hsteady))
  exact (hlists.again hlists' hsteady huniform hroom hwf' hextends hroom').trans
    (congrArg Prod.fst htold)

end

/-- **Pages of a stack are exact**, on any table that came of calls. -/
theorem pages_of_holdsStack (hb : b.registry.Reachable) (ht : b.target.Working)
    (h : b.HoldsStack id thread frames) : b.Pages id thread frames where
  invalidIndex_iff _ _ := (h.cuts ht).invalidIndex_iff
  invalidLength_iff _ _ hlow hhigh := (h.cuts ht).invalidLength_iff ⟨hlow, hhigh⟩
  told _ _ := h.told hb ht
  parts _ _ _ := h.parts hb ht
  again _ _ _ _ htold hroom _ := h.again hb ht htold hroom

open InMemory in
/-- A thread with three frames, two of them in one method of an interface. -/
def threeFrames : InMemory :=
  let build : StateM InMemory Unit := do
    let main ← addMethod (← addClass "LMain;") "main" "()V"
    let step ← addMethod (← addInterface "LStep;") "step" "()V"
    let thread ← addThread "main" (← addThreadGroup "main" none)
    let _ ← pushFrame thread main 3
    let _ ← pushFrame thread step 7
    let _ ← pushFrame thread step 0
  (build.run InMemory.new).2

/-- A debugger learns the id 1 of the thread, and suspends it. -/
def suspendOne : List (Happening InMemory) :=
  [.connected, .command Command.all 1 4 [], .command Command.all 11 2 (Bytes.ofWireId ⟨1⟩)]

/-- The outermost of three frames takes three ids. -/
theorem pages_of_threeFrames : ∃ b, Backend.new {} threeFrames = .ok b ∧
    ((b.after suspendOne).askPage ⟨1⟩ 2 (-1)).1 = .ok (.ok (pageBody [⟨⟨8⟩, ⟨2⟩, 3⟩]
      [0, 0, 0, 0, 0, 0, 0, 2, 1, 0, 0, 0, 0, 0, 0, 0, 3, 0, 0, 0, 0, 0, 0, 0, 4,
        0, 0, 0, 0, 0, 0, 0, 3])) ∧
    (b.after suspendOne).Pages ⟨1⟩ ⟨7⟩ [⟨⟨10⟩, ⟨4⟩, 0⟩, ⟨⟨9⟩, ⟨4⟩, 7⟩, ⟨⟨8⟩, ⟨2⟩, 3⟩] := by
  have hnew : Backend.new {} threeFrames = .ok _ := rfl
  refine ⟨_, hnew, by decide +kernel, ?_⟩
  refine pages_of_holdsStack (reachable_of_new hnew suspendOne) ?_ ?_
  · exact ⟨by decide +kernel, by decide +kernel⟩
  · exact ⟨by decide +kernel, by decide +kernel, by decide +kernel, by decide +kernel, by decide⟩

end Backend
end DebugWire

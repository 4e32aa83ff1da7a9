import DebugWire.Proofs.Bytes.Exact
import DebugWire.Registry.Exchange

/-!
# Proofs/Bytes/Parsing — what a reader accepts

`Reads x bs a` says what becomes of some bytes.  `Parses place x F` says all about the successes of
`x`: it takes bytes off the front of a payload and answers `a` exactly if `F` has these bytes spell
`a`, and does nothing else.  Readers in a row accept spellings in a row (`Parses.bind`), so what a
reader accepts can be read off its parts.

The reader may work on more than a cursor; `place` is the state that a cursor stands in.
-/

namespace DebugWire

variable {ε ε' τ α β : Type}

/-- The reader succeeds exactly on what `F` spells, and takes that and nothing else. -/
def Parses (place : Cursor → τ) (x : Attempt ε τ α) (F : Bytes → α → Prop) : Prop :=
  ∀ p rest a t, x.run (place ⟨p, rest⟩) = (.ok a, t) ↔
    ∃ bs tail, F bs a ∧ rest = bs ++ tail ∧ t = place ⟨p + bs.length, tail⟩

namespace Parses

variable {place : Cursor → τ} {x : Attempt ε τ α} {F G : Bytes → α → Prop}

theorem congr (h : Parses place x F) (hFG : ∀ bs a, F bs a ↔ G bs a) : Parses place x G := by
  obtain rfl : F = G := funext₂ fun bs a => propext (hFG bs a)
  exact h

/-- What stands in front is taken, whatever follows. -/
theorem run (h : Parses place x F) {bs : Bytes} {a : α} (hF : F bs a) (p : Nat) (tail : Bytes) :
    x.run (place ⟨p, bs ++ tail⟩) = (.ok a, place ⟨p + bs.length, tail⟩) :=
  (h p (bs ++ tail) a _).mpr ⟨bs, tail, hF, rfl, rfl⟩

/-! ## Steps that take nothing -/

theorem pure (a : α) :
    Parses place (Pure.pure a : Attempt ε τ α) fun bs a' => bs = [] ∧ a' = a := by
  intro p rest a' t
  rw [Attempt.run_pure, Prod.mk.injEq, Except.ok.injEq]
  constructor
  · rintro ⟨rfl, rfl⟩
    exact ⟨[], rest, ⟨rfl, rfl⟩, rfl, rfl⟩
  · rintro ⟨bs, tail, ⟨rfl, rfl⟩, rfl, rfl⟩
    exact ⟨rfl, rfl⟩

theorem throw (e : ε) : Parses place (MonadExcept.throw e : Attempt ε τ α) fun _ _ => False := by
  intro p rest a t
  rw [Attempt.run_throw]
  exact iff_of_false nofun fun ⟨_, _, h, _⟩ => h

theorem ofExcept (r : Except ε α) :
    Parses place (Attempt.ofExcept r : Attempt ε τ α) fun bs a => bs = [] ∧ r = .ok a := by
  cases r with
  | ok a => exact (Parses.pure a).congr fun bs a' => by rw [Except.ok.injEq, eq_comm (a := a)]
  | error e => exact (Parses.throw e).congr fun bs a => iff_of_false id nofun

/-- A result that is refused under a condition. -/
theorem refusing {p : Prop} [Decidable p] (e : ε) (a : α) :
    Parses place (if p then MonadExcept.throw e else Pure.pure a : Attempt ε τ α)
      fun bs a' => bs = [] ∧ ¬ p ∧ a' = a := by
  split
  · next hp => exact (Parses.throw e).congr fun bs a' => iff_of_false id fun h => h.2.1 hp
  · next hp => exact (Parses.pure a).congr fun bs a' => by rw [and_iff_right hp]

/-! ## One after the other -/

/-- **Spellings in a row.** -/
theorem bind {f : α → Attempt ε τ β} {G : α → Bytes → β → Prop} (hx : Parses place x F)
    (hf : ∀ a, Parses place (f a) (G a)) :
    Parses place (x >>= f) fun bs b => ∃ u v a, F u a ∧ G a v b ∧ bs = u ++ v := by
  intro p rest b t
  constructor
  · intro h
    rw [Attempt.run_bind] at h
    split at h
    · next a s hrun =>
      obtain ⟨u, tail, hF, rfl, rfl⟩ := (hx p rest a s).mp hrun
      obtain ⟨v, tail, hG, rfl, rfl⟩ := (hf a _ tail b t).mp h
      exact ⟨u ++ v, tail, ⟨u, v, a, hF, hG, rfl⟩, (List.append_assoc u v tail).symm, by
        rw [List.length_append, Nat.add_assoc]⟩
    · cases (Prod.mk.inj h).1
  · rintro ⟨bs, tail, ⟨u, v, a, hF, hG, rfl⟩, rfl, rfl⟩
    rw [List.append_assoc, Attempt.run_bind_of_ok (hx.run hF p _), (hf a).run hG,
      List.length_append, Nat.add_assoc]

/-- The last part, of which the result is made. -/
theorem last {f : α → Attempt ε τ β} {P : α → β → Prop} (hx : Parses place x F)
    (hf : ∀ a, Parses place (f a) fun bs b => bs = [] ∧ P a b) :
    Parses place (x >>= f) fun bs b => ∃ a, F bs a ∧ P a b := by
  refine (hx.bind hf).congr fun bs b => ?_
  constructor
  · rintro ⟨u, v, a, hF, ⟨rfl, hP⟩, rfl⟩
    exact ⟨a, (List.append_nil u).symm ▸ hF, hP⟩
  · rintro ⟨a, hF, hP⟩
    exact ⟨bs, [], a, hF, ⟨rfl, hP⟩, (List.append_nil bs).symm⟩

theorem map (hx : Parses place x F) (f : α → β) :
    Parses place (f <$> x) fun bs b => ∃ a, F bs a ∧ b = f a := by
  rw [map_eq_pure_bind]
  exact hx.last fun a => Parses.pure (f a)

/-- The last part, as something that stands for what is read. -/
theorem written {γ : Type} {write : γ → Bytes} {Q : γ → α → Prop}
    (hx : Parses place x fun bs a => ∃ c, bs = write c ∧ Q c a) (f : α → β) :
    Parses place (x >>= fun a => Pure.pure (f a))
      fun bs b => ∃ c, bs = write c ∧ ∃ a, Q c a ∧ b = f a := by
  refine (hx.last fun a => .pure (f a)).congr fun bs b => ?_
  constructor
  · rintro ⟨a, ⟨c, rfl, hQ⟩, rfl⟩
    exact ⟨c, rfl, a, hQ, rfl⟩
  · rintro ⟨c, rfl, a, hQ, rfl⟩
    exact ⟨a, ⟨c, rfl, hQ⟩, rfl⟩

/-- A reader that works on a part of the state. -/
theorem within {x : Attempt ε' Cursor α} (h : Parses id x F) {part : τ → Cursor}
    {put : Cursor → τ → τ} {f : ε' → ε} (hpart : ∀ c, part (place c) = c)
    (hput : ∀ c d, put d (place c) = place d) : Parses place (Attempt.within part put f x) F := by
  intro p rest a t
  rw [Attempt.run_within, hpart, hput, Prod.mk.injEq, Attempt.mapError_eq_ok_iff]
  constructor
  · rintro ⟨hok, rfl⟩
    obtain ⟨bs, tail, hF, rfl, hcursor⟩ := (h p rest a _).mp (Prod.ext hok rfl)
    exact ⟨bs, tail, hF, rfl, congrArg place hcursor⟩
  · rintro ⟨bs, tail, hF, rfl, rfl⟩
    have hrun : x.run ⟨p, bs ++ tail⟩ = (.ok a, ⟨p + bs.length, tail⟩) := h.run hF p tail
    rw [hrun]
    exact ⟨rfl, rfl⟩

/-- A reader of plain parts, among those that resolve ids. -/
theorem part {x : Read α} (h : Parses id x F) : Parses id (Decode.part x) F :=
  h.within (fun _ => rfl) fun _ _ => rfl

end Parses

namespace Read

/-! ## Parts of a fixed width -/

/-- A part of fixed width that is written again as it was. -/
theorem parses_of_takes {x : Read α} {w : Nat} {make : Bytes → α} {write : α → Bytes}
    (htakes : Takes x w make) (hreads : ∀ a, Reads x (write a) a)
    (hwrite : ∀ bs : Bytes, bs.length = w → write (make bs) = bs) :
    Parses id x fun bs a => bs = write a := by
  intro p rest a t
  constructor
  · intro h
    rw [id, htakes] at h
    split at h
    · next hlength =>
      obtain ⟨ha, rfl⟩ := Prod.mk.inj h
      obtain rfl := Except.ok.inj ha
      have htake : (rest.take w).length = w := List.length_take_of_le hlength
      have hsplit : rest = rest.take w ++ rest.drop w := (List.take_append_drop w rest).symm
      refine ⟨rest.take w, rest.drop w, (hwrite _ htake).symm, hsplit, ?_⟩
      rw [htake]
      rfl
    · cases (Prod.mk.inj h).1
  · rintro ⟨bs, tail, rfl, rfl, rfl⟩
    exact hreads a p tail

theorem parses_uint8 : Parses id uint8 fun bs v => bs = Bytes.ofUInt8 v :=
  parses_of_takes takes_uint8 reads_uint8 fun _ => Bytes.ofUInt8_ofNat

theorem parses_uint32 : Parses id uint32 fun bs v => bs = Bytes.ofUInt32 v :=
  parses_of_takes takes_uint32 reads_uint32 fun _ => Bytes.ofUInt32_ofNat

theorem parses_uint64 : Parses id uint64 fun bs v => bs = Bytes.ofUInt64 v :=
  parses_of_takes takes_uint64 reads_uint64 fun _ => Bytes.ofUInt64_ofNat

theorem parses_int32 : Parses id int32 fun bs v => bs = Bytes.ofInt32 v :=
  parses_of_takes (takes_uint32.map UInt32.toInt32) reads_int32 fun bs h => by
    rw [Bytes.ofInt32, Function.comp, UInt32.toUInt32_toInt32]
    exact Bytes.ofUInt32_ofNat h

theorem parses_wireId : Parses id wireId fun bs v => bs = Bytes.ofWireId v :=
  parses_of_takes (takes_uint64.map WireId.mk) reads_wireId fun _ => Bytes.ofUInt64_ofNat

/-- Any byte but 0 stands for true. -/
theorem parses_bool : Parses id bool fun bs v => ∃ raw, bs = Bytes.ofUInt8 raw ∧ v = (raw != 0) :=
  parses_uint8.map (· != 0)

/-! ## Lists and texts -/

theorem parses_bytes (n : Nat) : Parses id (bytes n) fun bs a => bs.length = n ∧ bs = a := by
  intro p rest a t
  constructor
  · intro h
    rw [id, takes_bytes] at h
    split at h
    · next hlength =>
      obtain ⟨ha, rfl⟩ := Prod.mk.inj h
      obtain rfl := Except.ok.inj ha
      have htake : (rest.take n).length = n := List.length_take_of_le hlength
      refine ⟨rest.take n, rest.drop n, ⟨htake, rfl⟩, (List.take_append_drop n rest).symm, ?_⟩
      rw [htake]
      rfl
    · cases (Prod.mk.inj h).1
  · rintro ⟨bs, tail, ⟨rfl, rfl⟩, rfl, rfl⟩
    exact run_bytes_append bs tail p

theorem parses_count : Parses id count fun bs n => n < 2 ^ 31 ∧ bs = Bytes.ofCount n := by
  refine (parses_int32.last fun n => .refusing _ _).congr fun bs m => ?_
  constructor
  · rintro ⟨n, rfl, hnonneg, rfl⟩
    refine ⟨n.toNatClampNeg_lt, ?_⟩
    rw [ofCount_eq n.toNatClampNeg_lt, Int32.ofNat_toNatClampNeg n (Int32.not_lt.mp hnonneg)]
  · rintro ⟨hm, rfl⟩
    refine ⟨Int32.ofNat m, ofCount_eq hm, ?_, (Int32.toNatClampNeg_ofNat_of_lt hm).symm⟩
    rw [Int32.lt_iff_toInt_lt, Int32.toInt_ofNat_of_lt hm]
    simp

/-- **A text is spelled in one way.** -/
theorem parses_string : Parses id string fun bs s =>
    (Utf8.encode s).length < 2 ^ 32 ∧ bs = Bytes.ofString s := by
  refine (parses_uint32.bind fun n => (parses_bytes n.toNat).last
    (P := fun text s => text = Utf8.encode s) fun text => ?_).congr fun bs s => ?_
  · cases hdecode : Utf8.decode text with
    | ok s =>
      refine (Parses.pure s).congr fun rest s' => and_congr_right fun _ => ?_
      rw [← Utf8.decode_eq_ok_iff, hdecode, Except.ok.injEq, eq_comm]
    | error fault =>
      refine (Parses.throw _).congr fun rest s => iff_of_false id fun h => ?_
      rw [← Utf8.decode_eq_ok_iff, hdecode] at h
      cases h.2
  · constructor
    · rintro ⟨_, text, n, rfl, ⟨_, ⟨hlength, rfl⟩, rfl⟩, rfl⟩
      rw [Bytes.ofString, hlength, Bytes.ofUInt32]
      exact ⟨n.toNat_lt, rfl⟩
    · rintro ⟨hfits, rfl⟩
      have hlength : (UInt32.ofNat (Utf8.encode s).length).toNat = (Utf8.encode s).length :=
        UInt32.toNat_ofNat_of_lt' hfits
      refine ⟨_, _, UInt32.ofNat _, rfl, ⟨_, ⟨hlength.symm, rfl⟩, rfl⟩, ?_⟩
      rw [Bytes.ofUInt32, hlength, Bytes.ofString]

end Read
end DebugWire

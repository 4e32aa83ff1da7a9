import DebugWire.Proofs.Stream.Script

/-!
# Proofs/Stream/Written — what becomes of a packet that is written

A stream may take a packet in pieces of any size, and fail in passing.  However it goes on, what it
took is the front of the packet, every byte once and in order (`Outbound.written_sendFrom`), and
writing succeeds exactly if that was all of it.  Which it is can be told from the script: the calls
that writing takes (`Turn.calls`) must all be gentle, and fail no more often than the writer has
patience (`Outbound.sends_of_script`).
-/

namespace DebugWire

namespace Turn

/-- The call fails. -/
def fails : Turn → Bool
  | .move _ => false
  | .fail _ => true

/-- The calls that it takes to write so many bytes, were every failure put up with.  One that moves
nothing is the last. -/
def calls : List Turn → (left : Nat) → List Turn
  | _, 0 => []
  | [], _ => []
  | .move limit :: turns, left =>
      .move limit :: if limit = 0 then [] else calls turns (left - limit)
  | .fail fault :: turns, left => .fail fault :: calls turns left

@[simp] theorem calls_zero (turns : List Turn) : calls turns 0 = [] := by
  cases turns <;> rfl

@[simp] theorem calls_nil (left : Nat) : calls [] left = [] := by
  cases left <;> rfl

/-- A stream that takes nothing is closed, so this call is the last. -/
theorem calls_move_zero {left : Nat} (hleft : left ≠ 0) (turns : List Turn) :
    calls (.move 0 :: turns) left = [.move 0] := by
  obtain ⟨n, rfl⟩ := Nat.exists_eq_succ_of_ne_zero hleft
  rfl

/-- What is taken need not be written again. -/
theorem calls_move {left limit : Nat} (hleft : left ≠ 0) (hlimit : limit ≠ 0)
    (turns : List Turn) :
    calls (.move limit :: turns) left = .move limit :: calls turns (left - limit) := by
  rw [calls, if_neg hlimit]
  exact hleft

/-- A call that fails has taken nothing. -/
theorem calls_fail {left : Nat} (hleft : left ≠ 0) (fault : StreamFault) (turns : List Turn) :
    calls (.fail fault :: turns) left = .fail fault :: calls turns left := by
  obtain ⟨n, rfl⟩ := Nat.exists_eq_succ_of_ne_zero hleft
  rfl

/-- The calls try no one's patience: none but gentle ones, and few that fail. -/
def Bearable (patience : Nat) (turns : List Turn) : Prop :=
  (∀ turn ∈ turns, turn.Gentle) ∧ turns.countP fails ≤ patience

theorem bearable_nil (patience : Nat) : Bearable patience [] := ⟨nofun, Nat.zero_le _⟩

/-- A call that moves something tries no patience. -/
theorem bearable_move {patience limit : Nat} (hlimit : limit ≠ 0) {turns : List Turn} :
    Bearable patience (.move limit :: turns) ↔ Bearable patience turns := by
  have hgentle : (move limit).Gentle := Nat.pos_of_ne_zero hlimit
  rw [Bearable, List.forall_mem_cons, and_iff_right hgentle,
    List.countP_cons_of_neg Bool.false_ne_true]
  rfl

/-- A failure in passing costs some. -/
theorem bearable_fail {patience : Nat} {fault : StreamFault} {turns : List Turn} :
    Bearable patience (.fail fault :: turns) ↔
      fault.isTransient ∧ 0 < patience ∧ Bearable (patience - 1) turns := by
  rw [Bearable, Bearable, List.forall_mem_cons, List.countP_cons_of_pos rfl]
  constructor
  · rintro ⟨⟨hpassing, hgentle⟩, hfew⟩
    exact ⟨hpassing, by omega, hgentle, by omega⟩
  · rintro ⟨hpassing, hpatience, hgentle, hfew⟩
    exact ⟨⟨hpassing, hgentle⟩, by omega⟩

end Turn

namespace Outbound

theorem written_flush (s : Outbound) : s.flush.2.written = s.written := by
  unfold flush
  split <;> rfl

/-- Flushing is one call of its own, which fails or does not. -/
theorem flush_eq_ok_iff {s : Outbound} : s.flush.1 = .ok () ↔ s.flushFault = none := by
  unfold flush
  split
  · next hnone => exact iff_of_true rfl hnone
  · next hsome => exact iff_of_false nofun fun hnone => absurd (hsome.symm.trans hnone) nofun

/-- **The front of the bytes is written.**  Writing succeeds exactly if that is all of them and the
flush does not fail. -/
theorem written_sendFrom (patience : Nat) (turns : List Turn) (bs : Bytes) (retries : Nat)
    (s : Outbound) : ∃ w, (sendFrom patience turns bs retries s).2.written = s.written ++ w ∧
      w <+: bs ∧
      ((sendFrom patience turns bs retries s).1 = .ok () ↔ w = bs ∧ s.flushFault = none) := by
  fun_induction sendFrom patience turns bs retries s with
  | case1 =>
    refine ⟨[], by rw [written_flush, List.append_nil], List.prefix_rfl, ?_⟩
    rw [flush_eq_ok_iff, and_iff_right rfl]
  | case2 =>
    refine ⟨_, written_flush _, List.prefix_rfl, ?_⟩
    rw [flush_eq_ok_iff, and_iff_right rfl]
  | case3 =>
    exact ⟨[], (List.append_nil _).symm, List.nil_prefix, iff_of_false nofun fun h => nomatch h.1⟩
  | case4 retries s bs limit turns _ _ ih =>
    obtain ⟨w, hwritten, hfront, hok⟩ := ih
    refine ⟨bs.take limit ++ w, by rw [hwritten, List.append_assoc], ?_, ?_⟩
    · have hrest := (List.prefix_append_right_inj (bs.take limit)).mpr hfront
      rwa [List.take_append_drop] at hrest
    · have hall : bs.take limit ++ w = bs ↔ w = bs.drop limit := by
        constructor
        · exact fun h => List.append_cancel_left (h.trans (List.take_append_drop limit bs).symm)
        · rintro rfl
          exact List.take_append_drop limit bs
      rw [hok, hall]
  | case5 retries s bs f turns _ _ ih => exact ih
  | case6 retries s bs f turns hsome _ =>
    exact ⟨[], (List.append_nil _).symm, List.nil_prefix,
      iff_of_false nofun fun h => hsome h.1.symm⟩

/-- The script tells whether writing succeeds. -/
theorem sendFrom_eq_ok_iff (patience : Nat) (turns : List Turn) (bs : Bytes) (retries : Nat)
    (s : Outbound) : (sendFrom patience turns bs retries s).1 = .ok () ↔
      Turn.Bearable (patience - retries) (Turn.calls turns bs.length) ∧ s.flushFault = none := by
  fun_induction sendFrom patience turns bs retries s with
  | case1 =>
    rw [flush_eq_ok_iff, List.length_nil, Turn.calls_zero, and_iff_right (Turn.bearable_nil _)]
  | case2 => rw [flush_eq_ok_iff, Turn.calls_nil, and_iff_right (Turn.bearable_nil _)]
  | case3 =>
    rw [List.length_cons, Turn.calls_move_zero (Nat.succ_ne_zero _)]
    exact iff_of_false nofun fun h => absurd (h.1.1 _ List.mem_cons_self) (Nat.lt_irrefl 0)
  | case4 retries s bs limit turns hsome hmoves ih =>
    obtain ⟨b, rest, hbs⟩ := List.exists_cons_of_ne_nil hsome
    have hlimit : limit ≠ 0 := hmoves b rest hbs
    rw [ih, List.length_drop, Turn.calls_move (mt List.length_eq_zero_iff.mp hsome) hlimit,
      Turn.bearable_move hlimit]
  | case5 retries s bs f turns hsome hretry ih =>
    rw [ih, Turn.calls_fail (mt List.length_eq_zero_iff.mp hsome), Turn.bearable_fail,
      and_iff_right hretry.1, and_iff_right (Nat.sub_pos_of_lt hretry.2), Nat.sub_sub]
    rfl
  | case6 retries s bs f turns hsome hstop =>
    rw [Turn.calls_fail (mt List.length_eq_zero_iff.mp hsome), Turn.bearable_fail]
    refine iff_of_false nofun fun h => hstop ⟨h.1.1, Nat.lt_of_sub_pos h.1.2.1⟩

/-- What is known once a writer with some patience has tried to write the bytes. -/
structure Sends (patience : Nat) (bs : Bytes) (s : Outbound)
    (told : Except ConnectionError Unit × Outbound) : Prop where
  /-- The front of the bytes was written, behind what was there. -/
  front : ∃ w, told.2.written = s.written ++ w ∧ w <+: bs
  /-- It succeeded exactly if that was all of them, and the flush did not fail. -/
  ok_iff : told.1 = .ok () ↔ told.2.written = s.written ++ bs ∧ s.flushFault = none
  /-- It succeeded exactly if no call was too much, and the flush did not fail. -/
  ok_iff_calls : told.1 = .ok () ↔
    Turn.Bearable patience (Turn.calls s.turns bs.length) ∧ s.flushFault = none

/-- **Writing never repeats, skips or changes a byte**, whatever the stream does. -/
theorem sends_of_script (patience : Nat) (bs : Bytes) (s : Outbound) :
    Sends patience bs s ((send patience bs).run s) := by
  obtain ⟨w, hwritten, hfront, hok⟩ := written_sendFrom patience s.turns bs 0 s
  exact {
    front := ⟨w, hwritten, hfront⟩
    ok_iff := by
      refine hok.trans (and_congr_left' ?_)
      rw [← List.append_cancel_left_eq s.written, ← hwritten]
      rfl
    ok_iff_calls := sendFrom_eq_ok_iff patience s.turns bs 0 s }

/-- A packet in three pieces; the second of two retries that are allowed is for the last byte. -/
example : (send 2 [1, 2, 3, 4]).run
      ⟨[.move 1, .fail .interrupted, .move 2, .fail .timedOut, .move 9], [], none, 0⟩ =
    (.ok (), ⟨[], [1, 2, 3, 4], none, 60⟩) := by with_unfolding_all rfl

end Outbound
end DebugWire

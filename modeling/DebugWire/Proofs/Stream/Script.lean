import DebugWire.Proofs.Stream.Frame

/-!
# Proofs/Stream/Script — reading does not depend on how a stream comes

A stream may hand out its bytes in pieces of any size, and fail in passing.  As long as no header
and no payload is held up more often than the reader has patience, what is read is what stands at
the front of the bytes (`Inbound.receive_of_gentle`), as if all of them came at once
(`Inbound.arrivals_of_script`).  Whatever the stream does, a packet that is read stood at the front
(`Inbound.front_of_receive`).

The streams of `Inbound.whole` hand out everything at once.
-/

namespace DebugWire

/-! ## Scripts -/

namespace Turn

/-- The call moves something, or fails in passing. -/
def Gentle : Turn → Prop
  | .move limit => 0 < limit
  | .fail fault => fault.isTransient

instance : DecidablePred Gentle
  | .move limit => inferInstanceAs (Decidable (0 < limit))
  | .fail fault => inferInstanceAs (Decidable (fault.isTransient = true))

/-- What a script does while `want` bytes are collected, of `left` that there are: how many calls
fail, and the turns that are left. -/
def spend : List Turn → (want left : Nat) → Nat × List Turn
  | turns, 0, _ => (0, turns)
  | [], _, _ => (0, [])
  | .move limit :: turns, want, left =>
      let moved := min (min limit want) left
      if moved = 0 then (0, turns) else spend turns (want - moved) (left - moved)
  | .fail _ :: turns, want, left =>
      let (failures, turns) := spend turns want left
      (failures + 1, turns)

@[simp] theorem spend_zero (turns : List Turn) (left : Nat) : spend turns 0 left = (0, turns) := by
  cases turns <;> rfl

@[simp] theorem spend_nil (want left : Nat) : spend [] want left = (0, []) := by
  cases want <;> rfl

/-- What a call hands out is bounded by what it offers, what is wanted and what is left. -/
theorem spend_move {want : Nat} (hwant : want ≠ 0) (limit : Nat) (turns : List Turn)
    (left : Nat) : spend (.move limit :: turns) want left =
      if min (min limit want) left = 0 then (0, turns)
      else spend turns (want - min (min limit want) left) (left - min (min limit want) left) := by
  obtain ⟨n, rfl⟩ := Nat.exists_eq_succ_of_ne_zero hwant
  rfl

/-- A failure is one more attempt, and hands out nothing. -/
theorem spend_fail {want : Nat} (hwant : want ≠ 0) (fault : StreamFault) (turns : List Turn)
    (left : Nat) : spend (.fail fault :: turns) want left =
      ((spend turns want left).1 + 1, (spend turns want left).2) := by
  obtain ⟨n, rfl⟩ := Nat.exists_eq_succ_of_ne_zero hwant
  rfl

/-- The turns that are left are the last ones. -/
theorem spend_suffix (turns : List Turn) (want left : Nat) :
    (spend turns want left).2 <:+ turns := by
  fun_induction spend turns want left with
  | case1 => exact List.suffix_rfl
  | case2 => exact List.suffix_rfl
  | case3 => exact List.suffix_cons _ _
  | case4 _ _ _ _ _ _ _ ih => exact ih.trans (List.suffix_cons _ _)
  | case5 _ _ _ _ _ _ _ hspend ih =>
    rw [hspend] at ih
    exact ih.trans (List.suffix_cons _ _)

/-- What a script does while the packet at the front is read. -/
structure Effort where
  /-- How many calls fail while the header is collected. -/
  header : Nat
  /-- How many calls fail while the payload is collected. -/
  payload : Nat
  /-- The turns that are left. -/
  turns : List Turn

def effort (limit : Nat) (turns : List Turn) (data : Bytes) : Effort :=
  let header := spend turns headerLength data.length
  let payload := spend header.2 (Header.announced limit data) (data.length - headerLength)
  ⟨header.1, payload.1, payload.2⟩

theorem effort_suffix (limit : Nat) (turns : List Turn) (data : Bytes) :
    (effort limit turns data).turns <:+ turns :=
  (spend_suffix _ _ _).trans (spend_suffix _ _ _)

/-- No header and no payload of the next `n` packets is held up longer than the reader waits. -/
def Steady (patience limit : Nat) : Nat → List Turn → Bytes → Prop
  | 0, _, _ => True
  | n + 1, turns, data =>
      (effort limit turns data).header ≤ patience ∧ (effort limit turns data).payload ≤ patience ∧
        Steady patience limit n (effort limit turns data).turns
          (data.drop (headerLength + Header.announced limit data))

instance decidableSteady (patience limit : Nat) :
    ∀ n turns data, Decidable (Steady patience limit n turns data)
  | 0, _, _ => inferInstanceAs (Decidable True)
  | n + 1, turns, data =>
      have := decidableSteady patience limit n (effort limit turns data).turns
        (data.drop (headerLength + Header.announced limit data))
      inferInstanceAs (Decidable (_ ∧ _ ∧ _))

end Turn

namespace Inbound

open Turn (spend effort)

variable {patience limit : Nat} {s t : Inbound}

/-- Every call moves something, or fails in passing. -/
def Gentle (s : Inbound) : Prop := ∀ turn ∈ s.turns, turn.Gentle

instance (s : Inbound) : Decidable s.Gentle := inferInstanceAs (Decidable (∀ _ ∈ _, _))

theorem Gentle.of_suffix {turns : List Turn} (hs : s.Gentle) (h : turns <:+ s.turns)
    {data : Bytes} {slept : Nat} : Gentle ⟨turns, data, slept⟩ :=
  fun turn hturn => hs turn (h.subset hturn)

/-- A stream that hands out everything at once. -/
def whole (data : Bytes) : Inbound := ⟨[], data, 0⟩

/-! ## One call -/

/-- A gentle stream stays gentle, as only the front of its script is used. -/
theorem Gentle.read {want : Nat} {r : Except StreamFault Bytes} (hs : s.Gentle)
    (h : s.read want = (r, t)) : t.Gentle := by
  unfold Inbound.read at h
  split at h <;> obtain ⟨-, rfl⟩ := Prod.mk.inj h
  · exact hs
  · next hturns => exact fun turn hturn => hs turn (hturns ▸ List.mem_cons_of_mem _ hturn)
  · next hturns => exact fun turn hturn => hs turn (hturns ▸ List.mem_cons_of_mem _ hturn)

/-- A call moves nothing only where the stream is over. -/
theorem Gentle.over_of_read {want : Nat} (hs : s.Gentle) (hwant : want ≠ 0)
    (h : s.read want = (.ok [], t)) :
    s.data = [] ∧ spend s.turns want s.data.length = (0, t.turns) ∧
      t = ⟨t.turns, s.data.drop want, s.slept⟩ := by
  unfold Inbound.read at h
  split at h
  · next hturns =>
    obtain ⟨hbs, rfl⟩ := Prod.mk.inj h
    obtain hzero | hnil := List.take_eq_nil_iff.mp (Except.ok.inj hbs)
    · exact absurd hzero hwant
    · exact ⟨hnil, by rw [hturns, Turn.spend_nil], rfl⟩
  · next limit turns hturns =>
    obtain ⟨hbs, rfl⟩ := Prod.mk.inj h
    have hlimit : 0 < limit := hs (.move limit) (hturns ▸ List.mem_cons_self)
    obtain hzero | hnil := List.take_eq_nil_iff.mp (Except.ok.inj hbs)
    · omega
    · refine ⟨hnil, ?_, by rw [hnil, List.drop_nil, List.drop_nil]⟩
      rw [hturns, hnil, List.length_nil, Turn.spend_move hwant, Nat.min_zero, if_pos rfl]
  · cases (Prod.mk.inj h).1

theorem slept_of_read {want : Nat} {r : Except StreamFault Bytes} (h : s.read want = (r, t)) :
    t.slept = s.slept := by
  unfold Inbound.read at h
  split at h <;> obtain ⟨-, rfl⟩ := Prod.mk.inj h <;> rfl

/-- What a call moves has not to be collected again. -/
theorem spend_of_read {want : Nat} {b : UInt8} {bs : Bytes} (h : s.read want = (.ok (b :: bs), t)) :
    spend s.turns want s.data.length = spend t.turns (want - (bs.length + 1)) t.data.length := by
  unfold Inbound.read at h
  split at h
  · next hturns =>
    obtain ⟨-, rfl⟩ := Prod.mk.inj h
    rw [hturns, Turn.spend_nil, Turn.spend_nil]
  · next limit turns hturns =>
    obtain ⟨hbs, rfl⟩ := Prod.mk.inj h
    have hmoved := congrArg List.length (Except.ok.inj hbs)
    rw [List.length_take, List.length_cons] at hmoved
    rw [hturns, Turn.spend_move (by omega), if_neg (by omega), hmoved, List.length_drop]
    congr 1
    omega
  · cases (Prod.mk.inj h).1

/-- A call that fails leaves everything to be collected. -/
theorem spend_of_read_error {want : Nat} {f : StreamFault} (hwant : want ≠ 0)
    (h : s.read want = (.error f, t)) (left : Nat) : spend s.turns want left =
      ((spend t.turns want left).1 + 1, (spend t.turns want left).2) := by
  unfold Inbound.read at h
  split at h
  · cases (Prod.mk.inj h).1
  · cases (Prod.mk.inj h).1
  · next hturns =>
    obtain ⟨-, rfl⟩ := Prod.mk.inj h
    rw [hturns, Turn.spend_fail hwant]

theorem Gentle.isTransient {want : Nat} {f : StreamFault} (hs : s.Gentle)
    (h : s.read want = (.error f, t)) : f.isTransient := by
  unfold Inbound.read at h
  split at h
  · cases (Prod.mk.inj h).1
  · cases (Prod.mk.inj h).1
  · next fault turns hturns =>
    obtain rfl := Except.error.inj (Prod.mk.inj h).1
    exact hs (.fail fault) (hturns ▸ List.mem_cons_self)

/-! ## Collecting bytes -/

/-- What comes of collecting `want` bytes behind `got`, if the stream is only slow. -/
def collected (want attempts : Nat) (got data : Bytes) : Except ConnectionError (Option Bytes) :=
  if want ≤ data.length then .ok (some (got ++ data.take want))
  else if got ++ data = [] then .ok none
  else .error (.stream attempts .closedMidPacket)

theorem collected_of_le {want : Nat} {data : Bytes} (h : want ≤ data.length) (attempts : Nat) :
    collected want attempts [] data = .ok (some (data.take want)) :=
  if_pos h

theorem collected_nil {want : Nat} (h : want ≠ 0) (attempts : Nat) :
    collected want attempts [] [] = .ok none := by
  rw [collected, if_neg (by simpa using h)]
  rfl

/-- **A stream that ends inside a part is closed in mid-packet**; one that ends before it is over.
-/
theorem collected_of_lt {want : Nat} {data : Bytes} (h : data.length < want) (hne : data ≠ [])
    (attempts : Nat) : collected want attempts [] data =
      .error (.stream attempts .closedMidPacket) := by
  rw [collected, if_neg (Nat.not_le_of_lt h), List.nil_append, if_neg hne]

/-- The bytes are there, or the stream ends in front of the first or later. -/
theorem collected_cases (want attempts : Nat) (data : Bytes) :
    want ≤ data.length ∧ collected want attempts [] data = .ok (some (data.take want)) ∨
      data.length < want ∧ (collected want attempts [] data = .ok none ∨
        collected want attempts [] data = .error (.stream attempts .closedMidPacket)) := by
  refine (Nat.lt_or_ge data.length want).symm.imp (fun h => ⟨h, collected_of_le h _⟩) fun h => ?_
  by_cases hnil : data = []
  · subst hnil
    exact ⟨h, .inl (collected_nil (Nat.ne_of_gt h) _)⟩
  · exact ⟨h, .inr (collected_of_lt h hnil _)⟩

/-- What was collected already counts as much as what is still to come. -/
theorem collected_append {want : Nat} {bs : Bytes} (h : bs.length ≤ want) (attempts : Nat)
    (got data : Bytes) : collected want attempts got (bs ++ data) =
      collected (want - bs.length) attempts (got ++ bs) data := by
  have hwant : want ≤ (bs ++ data).length ↔ want - bs.length ≤ data.length := by
    rw [List.length_append]
    omega
  simp only [collected, hwant, List.append_assoc, List.take_append, List.take_of_length_le h]

/-- How long `failures` retries wait, after so many before. -/
def waited : (retries failures : Nat) → Nat
  | _, 0 => 0
  | retries, failures + 1 => retryDelay (retries + 1) + waited (retries + 1) failures

/-- **Bytes are collected however they come**, as long as the reader has patience. -/
theorem fillFrom_of_gentle {want retries : Nat} {got : Bytes} (hs : s.Gentle)
    (hpatience : retries + (spend s.turns want s.data.length).1 ≤ patience) :
    fillFrom patience want got retries s =
      (collected want (retries + (spend s.turns want s.data.length).1 + 1) got s.data,
        ⟨(spend s.turns want s.data.length).2, s.data.drop want,
          s.slept + waited retries (spend s.turns want s.data.length).1⟩) := by
  fun_induction fillFrom patience want got retries s with
  | case1 got retries s => simp [collected, waited]
  | case2 want retries s hwant t hread =>
    obtain ⟨hdata, hspend, ht⟩ := hs.over_of_read hwant hread
    simp only [hspend, waited, Nat.add_zero]
    rw [← ht, hdata, collected, if_neg (by simpa using hwant)]
    rfl
  | case3 want got retries s hwant t hread hgot =>
    obtain ⟨hdata, hspend, ht⟩ := hs.over_of_read hwant hread
    simp only [hspend, waited, Nat.add_zero]
    rw [← ht, hdata, collected, if_neg (by simpa using hwant), if_neg (by simpa using hgot)]
  | case4 want got retries s hwant b bs t hread ih =>
    obtain ⟨hdata, hlen, -⟩ := read_ok hread
    rw [spend_of_read hread] at hpatience ⊢
    rw [ih (hs.read hread) hpatience, slept_of_read hread, hdata, collected_append hlen,
      List.drop_append, List.drop_of_length_le hlen]
    rfl
  | case5 want got retries s hwant f t hread hretry ih =>
    -- Waiting changes neither the turns nor the bytes.
    have hgentle : t.Gentle := hs.read hread
    have hdata : (t.sleep (retries + 1)).data = s.data := (read_error hread).1
    rw [hdata] at ih
    rw [spend_of_read_error hwant hread] at hpatience ⊢
    rw [ih hgentle (Nat.add_right_comm .. ▸ hpatience), Nat.add_right_comm retries 1, waited,
      ← Nat.add_assoc s.slept, ← slept_of_read hread]
    rfl
  | case6 want got retries s hwant f t hread hretry =>
    rw [spend_of_read_error hwant hread] at hpatience
    exact absurd ⟨hs.isTransient hread, by omega⟩ hretry

/-- What is collected, and what it leaves. -/
theorem fill_of_gentle {want : Nat} (hs : s.Gentle)
    (hpatience : (spend s.turns want s.data.length).1 ≤ patience) :
    (fill patience want).run s =
      (collected want ((spend s.turns want s.data.length).1 + 1) [] s.data,
        ⟨(spend s.turns want s.data.length).2, s.data.drop want,
          s.slept + waited 0 (spend s.turns want s.data.length).1⟩) := by
  have hfill : fillFrom patience want [] 0 s = _ := fillFrom_of_gentle hs (by rwa [Nat.zero_add])
  rwa [Nat.zero_add] at hfill

/-! ## One packet -/

@[simp] theorem run_fill_zero (patience : Nat) (s : Inbound) :
    (fill patience 0).run s = (.ok (some []), s) := by
  change fillFrom patience 0 [] 0 s = _
  rw [fillFrom, if_pos rfl]

/-- Read the payload that a header announces. -/
def receivePayload (patience : Nat) (header : Header) (s : Inbound) :
    Except ConnectionError (Option CommandPacket) × Inbound :=
  match (fill patience header.payloadLength).run s with
  | (.error e, t) => (.error e, t)
  | (.ok none, t) => (.error (.stream 1 .closedMidPacket), t)
  | (.ok (some payload), t) => (.ok (some (header.withPayload payload)), t)

/-- A header, then its payload. -/
theorem run_receive (patience limit : Nat) (s : Inbound) : (receive patience limit).run s =
    match (fill patience headerLength).run s with
    | (.error e, t) => (.error e, t)
    | (.ok none, t) => (.ok none, t)
    | (.ok (some bs), t) =>
      match (Header.ofBytes bs).check limit with
      | .error e => (.error (.framing e), t)
      | .ok () => receivePayload patience (Header.ofBytes bs) t := by
  rw [receive, Attempt.run_bind]
  rcases (fill patience headerLength).run s with ⟨_ | _ | bs, t⟩
  · rfl
  · rfl
  · dsimp only
    rw [Attempt.run_bind, Attempt.run_ofExcept]
    cases (Header.ofBytes bs).check limit with
    | error e => rfl
    | ok _ =>
      dsimp only [Attempt.mapError_ok]
      rw [receivePayload]
      split
      · next hempty => rw [hempty, run_fill_zero, Attempt.run_pure]
      · rw [Attempt.run_bind]
        rcases (fill patience (Header.ofBytes bs).payloadLength).run t with ⟨_ | _ | payload, u⟩ <;>
          rfl

/-- With patience enough, the payload is there or the stream is too short for it. -/
theorem receivePayload_of_gentle {header : Header} (hs : s.Gentle)
    (hpatience : (spend s.turns header.payloadLength s.data.length).1 ≤ patience) :
    Arrival.ofResult? (receivePayload patience header s).1 =
        some (if s.data.length < header.payloadLength then .cutOff
          else .packet (header.withPayload (s.data.take header.payloadLength))) ∧
      (receivePayload patience header s).2 =
        ⟨(spend s.turns header.payloadLength s.data.length).2, s.data.drop header.payloadLength,
          s.slept + waited 0 (spend s.turns header.payloadLength s.data.length).1⟩ := by
  rw [receivePayload, fill_of_gentle hs hpatience]
  obtain ⟨hle, hc⟩ | ⟨hlt, hc | hc⟩ := collected_cases header.payloadLength
    ((spend s.turns header.payloadLength s.data.length).1 + 1) s.data
  · rw [hc, if_neg (Nat.not_lt_of_le hle)]
    exact ⟨rfl, rfl⟩
  · rw [hc, if_pos hlt]
    exact ⟨rfl, rfl⟩
  · rw [hc, if_pos hlt]
    exact ⟨rfl, rfl⟩

/-- Whatever the stream does, a payload that is read stood at its front. -/
theorem receivePayload_eq_some {header : Header} {p : CommandPacket}
    (h : receivePayload patience header s = (.ok (some p), t)) :
    ∃ payload, s.data = payload ++ t.data ∧ payload.length = header.payloadLength ∧
      p = header.withPayload payload := by
  unfold receivePayload at h
  split at h
  · cases (Prod.mk.inj h).1
  · cases (Prod.mk.inj h).1
  · next payload u hfill =>
    obtain ⟨hp, rfl⟩ := Prod.mk.inj h
    obtain ⟨hdata, hlength⟩ := fill_eq_some hfill
    exact ⟨payload, hdata, hlength, (Option.some.inj (Except.ok.inj hp)).symm⟩

/-- **What is read stands at the front**, as long as the reader has patience. -/
theorem receive_of_gentle (hs : s.Gentle)
    (hheader : (effort limit s.turns s.data).header ≤ patience)
    (hpayload : (effort limit s.turns s.data).payload ≤ patience) :
    Arrival.ofResult? ((receive patience limit).run s).1 = some (Arrival.front limit s.data).1 ∧
      ((receive patience limit).run s).2 =
        ⟨(effort limit s.turns s.data).turns, (Arrival.front limit s.data).2,
          s.slept + waited 0 (effort limit s.turns s.data).header +
            waited 0 (effort limit s.turns s.data).payload⟩ := by
  rw [run_receive, fill_of_gentle hs hheader, Arrival.front_snd]
  simp only [effort, ← List.length_drop] at hpayload ⊢
  obtain hnil | ⟨hne, hshort⟩ | ⟨hlength, hcheck⟩ := Arrival.front_cases limit s.data
  · have hshort : s.data.length < headerLength := by rw [hnil]; decide
    rw [Header.announced_of_lt hshort, hnil, collected_nil (by decide)]
    simp [Arrival.ofResult?, waited]
  · rw [Header.announced_of_lt hshort, collected_of_lt hshort hne, Arrival.front_of_lt hne hshort]
    simp [Arrival.ofResult?, waited]
  · rw [collected_of_le hlength]
    dsimp only
    rw [Header.ofBytes_take (Nat.le_refl _) hlength]
    obtain ⟨e, hcheck⟩ | hcheck := hcheck
    · rw [Header.announced_of_check_error hlength hcheck, hcheck,
        Arrival.front_of_check_error hlength hcheck]
      simp [Arrival.ofResult?, waited]
    · have hgentle : Gentle ⟨(spend s.turns headerLength s.data.length).2, s.data.drop headerLength,
          s.slept + waited 0 (spend s.turns headerLength s.data.length).1⟩ :=
        fun turn hturn => hs turn ((Turn.spend_suffix _ _ _).subset hturn)
      rw [Header.announced_of_check hlength hcheck] at hpayload ⊢
      obtain ⟨htold, hleft⟩ := receivePayload_of_gentle hgentle hpayload
      rw [hcheck, htold, hleft, Arrival.front_of_check hlength hcheck, List.drop_drop]
      exact ⟨rfl, rfl⟩

/-- **Whatever a stream does, a packet that is read stood at its front.** -/
theorem front_of_receive {p : CommandPacket}
    (h : (receive patience limit).run s = (.ok (some p), t)) :
    Arrival.front limit s.data = (.packet p, t.data) := by
  rw [run_receive] at h
  rcases hfill : (fill patience headerLength).run s with ⟨_ | _ | bs, u⟩
  · rw [hfill] at h
    cases (Prod.mk.inj h).1
  · rw [hfill] at h
    cases (Prod.mk.inj h).1
  · rw [hfill] at h
    dsimp only at h
    obtain ⟨hdata, hlen⟩ := fill_eq_some hfill
    split at h
    · cases (Prod.mk.inj h).1
    · next hcheck =>
      obtain ⟨payload, hrest, hsize, rfl⟩ := receivePayload_eq_some h
      have hheader := Header.ofBytes_append (Nat.le_of_eq hlen.symm) u.data
      have hlength : (Header.ofBytes bs).length = headerLength + payload.length := by
        rw [hsize]
        exact (Nat.add_sub_cancel' (Header.check_eq_ok_iff.mp hcheck).1).symm
      rw [Arrival.front_eq_packet_iff, hdata, hheader, ← hsize, List.drop_left' hlen, hlength,
        ← hlen, ← List.drop_drop, List.drop_left, hrest, List.take_left, List.drop_left]
      exact ⟨by simp, hcheck, by simp, rfl, rfl⟩

/-! ## One packet after another -/

/-- What a reader finds in `n` attempts, whatever came of those before, and the bytes that each
leaves.  How often it tried before it gave up is not part of it. -/
def arrivals (patience limit : Nat) : Nat → Inbound → List (Option Arrival × Bytes)
  | 0, _ => []
  | n + 1, s =>
      let (r, t) := (receive patience limit).run s
      (Arrival.ofResult? r, t.data) :: arrivals patience limit n t

/-- The bytes tell what a patient reader finds. -/
theorem arrivals_eq_fronts {n : Nat} (hs : s.Gentle)
    (hsteady : Turn.Steady patience limit n s.turns s.data) :
    s.arrivals patience limit n = Arrival.fronts limit n s.data := by
  induction n generalizing s with
  | zero => rfl
  | succ n ih =>
    obtain ⟨hheader, hpayload, hsteady⟩ := hsteady
    obtain ⟨htold, hleft⟩ := receive_of_gentle hs hheader hpayload
    rw [← Arrival.front_snd] at hsteady
    rw [arrivals, Arrival.fronts]
    dsimp only
    rw [htold, hleft, ih (hs.of_suffix (Turn.effort_suffix _ _ _)) hsteady]

@[simp] theorem gentle_whole (data : Bytes) : (whole data).Gentle := nofun

theorem steady_whole (patience limit : Nat) :
    ∀ (n : Nat) (data : Bytes), Turn.Steady patience limit n [] data
  | 0, _ => trivial
  | n + 1, data => by
    simp only [Turn.Steady, effort, Turn.spend_nil, Nat.zero_le, true_and]
    exact steady_whole patience limit n _

/-- **Reading does not depend on how the bytes come.**  In pieces of any size, and with failures in
passing that try no reader's patience, they are read as if they came at once.  And whatever a stream
does, a packet that is read is the one at the front. -/
theorem arrivals_of_script (patience limit : Nat) (s : Inbound) :
    (s.Gentle → ∀ n, Turn.Steady patience limit n s.turns s.data →
      s.arrivals patience limit n = (whole s.data).arrivals patience limit n) ∧
    ∀ p t, (receive patience limit).run s = (.ok (some p), t) →
      ∃ bs, p.Frames limit bs ∧ s.data = bs ++ t.data := by
  refine ⟨fun hs n hsteady => ?_, fun p t h => Arrival.exists_frames (front_of_receive h)⟩
  rw [arrivals_eq_fronts hs hsteady,
    arrivals_eq_fronts (gentle_whole _) (steady_whole _ _ _ _)]
  rfl

/-- Two commands in small pieces, and failures in passing while they come. -/
def slow : Inbound where
  turns := [.move 3, .fail .interrupted, .move 1, .fail .wouldBlock, .move 9, .move 1, .move 40,
    .fail .timedOut, .move 40, .fail .timedOut, .move 2]
  data := (CommandPacket.mk 7 1 2 [5, 6]).encode ++ (CommandPacket.mk 8 1 1 []).encode ++ [0, 0, 0]
  slept := 0

/-- Two retries are enough for it; with the stream broken behind the first command, that command is
read all the same. -/
theorem arrivals_of_slow : slow.Gentle ∧ Turn.Steady 2 64 4 slow.turns slow.data ∧
    slow.arrivals 2 64 4 = (whole slow.data).arrivals 2 64 4 ∧
    ∃ broken t, broken = { slow with turns := slow.turns.take 7 ++ [.fail .brokenPipe] } ∧
      (receive 2 64).run broken = (.ok (some ⟨7, 1, 2, [5, 6]⟩), t) ∧
      ∃ bs, CommandPacket.Frames 64 ⟨7, 1, 2, [5, 6]⟩ bs ∧ broken.data = bs ++ t.data := by
  have hgentle : slow.Gentle := by decide
  have hsteady : Turn.Steady 2 64 4 slow.turns slow.data := by decide
  have hbroken :
      (receive 2 64).run { slow with turns := slow.turns.take 7 ++ [.fail .brokenPipe] } =
        (.ok (some ⟨7, 1, 2, [5, 6]⟩),
          ⟨[.fail .brokenPipe], (CommandPacket.mk 8 1 1 []).encode ++ [0, 0, 0], 60⟩) := by
    with_unfolding_all rfl
  exact ⟨hgentle, hsteady, (arrivals_of_script 2 64 slow).1 hgentle 4 hsteady, _, _, rfl, hbroken,
    (arrivals_of_script 2 64 _).2 _ _ hbroken⟩

end Inbound
end DebugWire

import DebugWire.Proofs.Stream.Script

/-!
# Proofs/Stream/Format — the bytes tell what is read

Where a byte string is there as a whole, `Inbound.Reads` says for each which of them are read as a
command, and how many bytes every answer takes.  A list of commands is read as it was written:
`Inbound.reads_format`.

A byte string is always one command after another, and then something else (`Arrival.Carries`).
What is read of a stream that carries them is the next command, or what stands behind the last one,
unless the stream fails (`Arrival.Carries.receive`).
-/

namespace DebugWire

namespace Arrival

variable {r : Except ConnectionError (Option CommandPacket)} {p : CommandPacket} {e : FramingError}

theorem ofResult?_eq_packet_iff : ofResult? r = some (.packet p) ↔ r = .ok (some p) := by
  unfold ofResult?
  split <;> simp

theorem ofResult?_eq_ended_iff : ofResult? r = some .ended ↔ r = .ok none := by
  unfold ofResult?
  split <;> simp

theorem ofResult?_eq_malformed_iff : ofResult? r = some (.malformed e) ↔
    r = .error (.framing e) := by
  unfold ofResult?
  split <;> simp_all

theorem ofResult?_eq_cutOff_iff : ofResult? r = some .cutOff ↔
    ∃ attempts, r = .error (.stream attempts .closedMidPacket) := by
  unfold ofResult?
  split <;> simp_all

theorem front_fst_eq_malformed_iff {limit : Nat} {data : Bytes} :
    (front limit data).1 = .malformed e ↔
      headerLength ≤ data.length ∧ (Header.ofBytes data).check limit = .error e := by
  obtain rfl | ⟨hne, hshort⟩ | ⟨hheader, ⟨e', hcheck⟩ | hcheck⟩ := front_cases limit data
  · simp [headerLength]
  · simp [front_of_lt hne hshort, Nat.not_le_of_lt hshort]
  · simp [front_of_check_error hheader hcheck, hheader, hcheck]
  · rw [front_of_check hheader hcheck, hcheck]
    split <;> simp

theorem front_fst_eq_ended_iff {limit : Nat} {data : Bytes} :
    (front limit data).1 = .ended ↔ data = [] := by
  obtain rfl | ⟨hne, hshort⟩ | ⟨hheader, ⟨e', hcheck⟩ | hcheck⟩ := front_cases limit data
  · simp
  · simp [front_of_lt hne hshort, hne]
  · simp [front_of_check_error hheader hcheck, ne_nil_of_le hheader]
  · rw [front_of_check hheader hcheck]
    split <;> simp [ne_nil_of_le hheader]

end Arrival

namespace Inbound

variable {patience limit : Nat} {data : Bytes}

/-- The stream never holds up a reader longer than that waits. -/
structure Reliable (patience limit : Nat) (s : Inbound) : Prop where
  gentle : s.Gentle
  steady : ∀ n, Turn.Steady patience limit n s.turns s.data

/-- A reliable stream is read where it stands. -/
theorem Reliable.told {s : Inbound} (h : s.Reliable patience limit) :
    Arrival.ofResult? ((receive patience limit).run s).1 = some (Arrival.front limit s.data).1 ∧
      ((receive patience limit).run s).2 =
        ⟨(Turn.effort limit s.turns s.data).turns, (Arrival.front limit s.data).2,
          s.slept + waited 0 (Turn.effort limit s.turns s.data).header +
            waited 0 (Turn.effort limit s.turns s.data).payload⟩ :=
  receive_of_gentle h.gentle (h.steady 1).1 (h.steady 1).2.1

/-- It stays reliable. -/
theorem Reliable.receive {s : Inbound} (h : s.Reliable patience limit) :
    ((Inbound.receive patience limit).run s).2.Reliable patience limit := by
  rw [h.told.2]
  refine ⟨h.gentle.of_suffix (Turn.effort_suffix _ _ _), fun n => ?_⟩
  have hsteady := (h.steady (n + 1)).2.2
  rwa [← Arrival.front_snd] at hsteady

theorem reliable_whole (patience limit : Nat) (data : Bytes) :
    (whole data).Reliable patience limit :=
  ⟨gentle_whole data, fun n => steady_whole patience limit n data⟩

/-- Bytes that are there as a whole are read where they stand. -/
theorem receive_whole (patience limit : Nat) (data : Bytes) :
    Arrival.ofResult? ((receive patience limit).run (whole data)).1 =
        some (Arrival.front limit data).1 ∧
      ((receive patience limit).run (whole data)).2 = whole (Arrival.front limit data).2 := by
  simpa [whole, Turn.effort, waited] using (reliable_whole patience limit data).told

theorem receive_whole_eq_iff {r : Except ConnectionError (Option CommandPacket)} {a : Arrival}
    (hr : ∀ r', Arrival.ofResult? r' = some a ↔ r' = r) {t : Inbound} :
    (receive patience limit).run (whole data) = (r, t) ↔
      (Arrival.front limit data).1 = a ∧ t = whole (Arrival.front limit data).2 := by
  obtain ⟨htold, hleft⟩ := receive_whole patience limit data
  rw [Prod.ext_iff, ← hr, htold, hleft, Option.some.injEq]
  exact and_congr_right' eq_comm

/-- What is read of a byte string. -/
structure Reads (patience limit : Nat) (data : Bytes) : Prop where
  /-- A command, exactly if its bytes are there, their number is right, and it is no reply. -/
  packet_iff : (∃ p t, (receive patience limit).run (whole data) = (.ok (some p), t)) ↔
    headerLength ≤ data.length ∧ headerLength ≤ ofBigEndian (data.take 4) ∧
      ofBigEndian (data.take 4) ≤ limit ∧ data.getD 8 0 &&& replyFlag = 0 ∧
      ofBigEndian (data.take 4) - headerLength ≤ (data.drop headerLength).length
  /-- These bytes are the command's, and no others are taken. -/
  packet : ∀ p t, (receive patience limit).run (whole data) = (.ok (some p), t) →
    p.Frames limit (data.take (ofBigEndian (data.take 4))) ∧
      t = whole (data.drop (ofBigEndian (data.take 4)))
  /-- Of a malformed packet the header is taken. -/
  malformed_iff : ∀ e t, (receive patience limit).run (whole data) = (.error (.framing e), t) ↔
    headerLength ≤ data.length ∧ (Header.ofBytes data).check limit = .error e ∧
      t = whole (data.drop headerLength)
  /-- The end is clean where there are no bytes. -/
  ended_iff : ∀ t, (receive patience limit).run (whole data) = (.ok none, t) ↔
    data = [] ∧ t = whole []

/-- What the whole bytes say, in one place. -/
theorem reads (patience limit : Nat) (data : Bytes) : Reads patience limit data where
  packet_iff := by
    constructor
    · rintro ⟨p, t, h⟩
      obtain ⟨hheader, hcheck, hlength, -⟩ := Arrival.front_eq_packet_iff.mp (front_of_receive h)
      obtain ⟨hshort, hlong, hflags⟩ := Header.check_eq_ok_iff.mp hcheck
      exact ⟨hheader, hshort, hlong, hflags, by
        rw [List.length_drop]
        exact Nat.sub_le_sub_right hlength _⟩
    · rintro ⟨hheader, hshort, hlong, hflags, hpayload⟩
      rw [List.length_drop] at hpayload
      have hfront := Arrival.front_eq_packet_iff.mpr ⟨hheader,
        Header.check_eq_ok_iff.mpr ⟨hshort, hlong, hflags⟩,
        (Nat.sub_le_sub_iff_right hheader).mp hpayload, rfl, rfl⟩
      exact ⟨_, _, (receive_whole_eq_iff fun _ => Arrival.ofResult?_eq_packet_iff).mpr
        ⟨congrArg Prod.fst hfront, rfl⟩⟩
  packet p t h := by
    have hfront : Arrival.front limit data = (.packet p, t.data) := front_of_receive h
    obtain ⟨-, -, hlength, -, hrest⟩ := Arrival.front_eq_packet_iff.mp hfront
    obtain ⟨bs, hframes, hdata⟩ := Arrival.exists_frames hfront
    obtain ⟨-, ht⟩ := (receive_whole_eq_iff fun _ => Arrival.ofResult?_eq_packet_iff).mp h
    have hbs : data.take (Header.ofBytes data).length ++ t.data = bs ++ t.data := by
      rw [← hdata, hrest]
      exact List.take_append_drop _ _
    rw [hfront, hrest] at ht
    exact ⟨List.append_cancel_right hbs ▸ hframes, ht⟩
  malformed_iff e t := by
    rw [receive_whole_eq_iff fun _ => Arrival.ofResult?_eq_malformed_iff,
      Arrival.front_fst_eq_malformed_iff, and_assoc]
    refine and_congr_right fun hheader => and_congr_right fun hcheck => ?_
    rw [Arrival.front_of_check_error hheader hcheck]
  ended_iff t := by
    rw [receive_whole_eq_iff fun _ => Arrival.ofResult?_eq_ended_iff,
      Arrival.front_fst_eq_ended_iff]
    refine and_congr_right ?_
    rintro rfl
    rw [Arrival.front_nil]

/-- One packet, and then the rest of the stream. -/
theorem receiveAll_of_packet {s t : Inbound} {p : CommandPacket}
    (h : (receive patience limit).run s = (.ok (some p), t)) :
    receiveAll patience limit s =
      (p :: (receiveAll patience limit t).1, (receiveAll patience limit t).2) := by
  rw [receiveAll]
  split <;> simp_all

theorem receiveAll_of_ended {s t : Inbound} (h : (receive patience limit).run s = (.ok none, t)) :
    receiveAll patience limit s = ([], none, t) := by
  rw [receiveAll]
  split <;> simp_all

/-- Commands are read as they were written. -/
theorem receiveAll_encode (patience : Nat) :
    ∀ {ps : List CommandPacket}, (∀ p ∈ ps, p.Fits limit) →
      receiveAll patience limit (whole (ps.flatMap CommandPacket.encode)) = (ps, none, whole [])
  | [], _ => receiveAll_of_ended (((reads patience limit []).ended_iff _).mpr ⟨rfl, rfl⟩)
  | p :: ps, h => by
    obtain ⟨hp, hps⟩ := List.forall_mem_cons.mp h
    have hfront := Arrival.front_of_frames hp.frames_encode (ps.flatMap CommandPacket.encode)
    have hread : (receive patience limit).run (whole _) = _ := (receive_whole_eq_iff
      fun _ => Arrival.ofResult?_eq_packet_iff).mpr ⟨congrArg Prod.fst hfront, rfl⟩
    rw [hfront] at hread
    rw [List.flatMap_cons, receiveAll_of_packet hread, receiveAll_encode patience hps]

/-- **The format is what is read.**  Every byte string is read as the format says; and commands that
are no longer than is allowed are read as they were written, up to a clean end. -/
theorem reads_format (patience limit : Nat) :
    (∀ data, Reads patience limit data) ∧
    ∀ ps : List CommandPacket, (∀ p ∈ ps, p.Fits limit) →
      receiveAll patience limit (whole (ps.flatMap CommandPacket.encode)) = (ps, none, whole []) :=
  ⟨reads patience limit, fun _ => receiveAll_encode patience⟩

/-- Two commands, the second with a payload that fills the limit. -/
theorem reads_format_pair : (∀ p ∈ [CommandPacket.mk 1 1 7 [], ⟨2, 15, 1, [40, 2, 0]⟩], p.Fits 14) ∧
    receiveAll 5 14 (whole ([CommandPacket.mk 1 1 7 [], ⟨2, 15, 1, [40, 2, 0]⟩].flatMap
        CommandPacket.encode)) =
      ([⟨1, 1, 7, []⟩, ⟨2, 15, 1, [40, 2, 0]⟩], none, whole []) ∧
    (receive 5 13).run (whole (CommandPacket.mk 2 15 1 [40, 2, 0]).encode) =
      (.error (.framing (.exceedsLimit 14 13)), whole [40, 2, 0]) := by
  have hfits : ∀ p ∈ [CommandPacket.mk 1 1 7 [], ⟨2, 15, 1, [40, 2, 0]⟩], p.Fits 14 := by decide
  refine ⟨hfits, (reads_format 5 14).2 _ hfits, ?_⟩
  exact (((reads_format 5 13).1 _).malformed_iff _ _).mpr ⟨by decide, rfl, rfl⟩

/-! ## What a stream carries -/

/-- Filling fails with the fault of the stream, never with one of framing. -/
theorem fillFrom_error {want retries : Nat} {got : Bytes} {s t : Inbound} {e : ConnectionError}
    (h : fillFrom patience want got retries s = (.error e, t)) :
    ∃ attempts cause, e = .stream attempts cause := by
  fun_induction fillFrom patience want got retries s with
  | case1 | case2 => cases (Prod.mk.inj h).1
  | case3 | case6 => exact ⟨_, _, (Except.error.inj (Prod.mk.inj h).1).symm⟩
  | case4 _ _ _ _ _ _ _ _ _ ih => exact ih h
  | case5 _ _ _ _ _ _ _ _ _ ih => exact ih h

/-- Only what stands at the front is found to be malformed, and only a stream that fails ends
otherwise. -/
theorem receive_cases {s t : Inbound} {r : Except ConnectionError (Option CommandPacket)}
    (h : (Inbound.receive patience limit).run s = (r, t)) :
    (∃ p, r = .ok (some p)) ∨ (∃ e, r = .error (.framing e) ∧
      (Arrival.front limit s.data).1 = .malformed e) ∨
      r = .ok none ∨ ∃ attempts cause, r = .error (.stream attempts cause) := by
  rw [run_receive] at h
  rcases hfill : (fill patience headerLength).run s with ⟨e | _ | bs, u⟩
  · obtain ⟨attempts, cause, rfl⟩ := fillFrom_error hfill
    rw [hfill] at h
    exact .inr (.inr (.inr ⟨attempts, cause, (Prod.mk.inj h).1.symm⟩))
  · rw [hfill] at h
    exact .inr (.inr (.inl (Prod.mk.inj h).1.symm))
  · rw [hfill] at h
    dsimp only at h
    obtain ⟨hdata, hlength⟩ := fill_eq_some hfill
    cases hcheck : (Header.ofBytes bs).check limit with
    | error e =>
      rw [hcheck] at h
      refine .inr (.inl ⟨e, (Prod.mk.inj h).1.symm, ?_⟩)
      rw [Arrival.front_fst_eq_malformed_iff, hdata, List.length_append, hlength,
        Header.ofBytes_append (Nat.le_of_eq hlength.symm)]
      exact ⟨Nat.le_add_right _ _, hcheck⟩
    | ok _ =>
      rw [hcheck] at h
      dsimp only [receivePayload] at h
      split at h
      · next e _ hpay =>
        obtain ⟨attempts, cause, rfl⟩ := fillFrom_error hpay
        exact .inr (.inr (.inr ⟨attempts, cause, (Prod.mk.inj h).1.symm⟩))
      · exact .inr (.inr (.inr ⟨_, _, (Prod.mk.inj h).1.symm⟩))
      · exact .inl ⟨_, (Prod.mk.inj h).1.symm⟩

end Inbound

namespace Arrival

/-- A byte string is one command after another, and then something else. -/
inductive Carries (limit : Nat) : Bytes → List CommandPacket → Arrival → Prop where
  | nil {data : Bytes} (hlast : ∀ p, (front limit data).1 ≠ .packet p) :
      Carries limit data [] (front limit data).1
  | cons {data rest : Bytes} {p : CommandPacket} {ps : List CommandPacket} {last : Arrival}
      (hfront : front limit data = (.packet p, rest)) (h : Carries limit rest ps last) :
      Carries limit data (p :: ps) last

variable {limit : Nat} {data : Bytes}

/-- Every byte string is of that form. -/
theorem exists_carries (limit : Nat) (data : Bytes) : ∃ ps last, Carries limit data ps last := by
  by_cases hpacket : ∃ p, (front limit data).1 = .packet p
  · obtain ⟨p, hp⟩ := hpacket
    have hfront : front limit data = (.packet p, (front limit data).2) := Prod.ext hp rfl
    obtain ⟨bs, ⟨-, flags, -, rfl⟩, hdata⟩ := exists_frames hfront
    have hlength : (front limit data).2.length < data.length := by
      have hsum := congrArg List.length hdata
      rw [List.length_append, CommandPacket.length_frame, headerLength] at hsum
      omega
    obtain ⟨ps, last, h⟩ := exists_carries limit (front limit data).2
    exact ⟨p :: ps, last, .cons hfront h⟩
  · exact ⟨[], _, .nil (not_exists.mp hpacket)⟩
termination_by data.length

/-- **What is read of a stream** is the next command that it carries, or what stands behind the last
one, unless the stream holds up its reader. -/
theorem Carries.receive {s t : Inbound} {ps : List CommandPacket} {last : Arrival} {patience : Nat}
    {r : Except ConnectionError (Option CommandPacket)} (hcarries : Carries limit s.data ps last)
    (h : (Inbound.receive patience limit).run s = (r, t)) :
    (∃ p rest, r = .ok (some p) ∧ ps = p :: rest ∧ Carries limit t.data rest last) ∨
    (ps = [] ∧ ofResult? r = some last ∧ ∀ p, last ≠ .packet p) ∨
    (¬ s.Reliable patience limit ∧
      (r = .ok none ∨ ∃ attempts cause, r = .error (.stream attempts cause))) := by
  obtain ⟨p, rfl⟩ | ⟨e, rfl, he⟩ | hfailed := Inbound.receive_cases h
  · have hfront := Inbound.front_of_receive h
    cases hcarries with
    | nil hlast => exact absurd (congrArg Prod.fst hfront) (hlast p)
    | cons hfront' hrest =>
      obtain ⟨hp, rfl⟩ := Prod.mk.inj (hfront.symm.trans hfront')
      exact .inl ⟨p, _, rfl, by rw [Arrival.packet.inj hp], hrest⟩
  · cases hcarries with
    | nil hlast => exact .inr (.inl ⟨rfl, congrArg some he.symm, hlast⟩)
    | cons hfront' hrest => exact absurd (he.symm.trans (congrArg Prod.fst hfront')) nofun
  · by_cases hreliable : s.Reliable patience limit
    · have htold := hreliable.told.1
      rw [h] at htold
      cases hcarries with
      | nil hlast => exact .inr (.inl ⟨rfl, htold, hlast⟩)
      | cons hfront' hrest =>
        rw [hfront', ofResult?_eq_packet_iff] at htold
        obtain hnone | ⟨attempts, cause, hfault⟩ := hfailed
        · exact absurd (htold.symm.trans hnone) (by simp)
        · exact absurd (htold.symm.trans hfault) nofun
    · exact .inr (.inr ⟨hreliable, hfailed⟩)

end Arrival
end DebugWire

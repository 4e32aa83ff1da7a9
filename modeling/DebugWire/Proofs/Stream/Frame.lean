import DebugWire.Stream

/-!
# Proofs/Stream/Frame — what stands at the front of a byte string

`CommandPacket.Frames` is the format: a command, its length in front, no reply flag, and no longer
than is allowed.  `Arrival.front` reads the front of a byte string that is there as a whole.  The
two agree: a command is found exactly where its frame stands (`Arrival.front_of_frames`,
`Arrival.exists_frames`).
-/

namespace DebugWire

/-! ## The format -/

namespace CommandPacket

/-- The bytes of a command with some flags. -/
def frame (flags : UInt8) (p : CommandPacket) : Bytes :=
  bigEndian 4 (headerLength + p.payload.length) ++ Bytes.ofUInt32 p.id ++
    [flags, p.commandSet, p.command] ++ p.payload

/-- The command is no longer than is allowed, and than four bytes can say. -/
def Fits (limit : Nat) (p : CommandPacket) : Prop :=
  headerLength + p.payload.length ≤ limit ∧ headerLength + p.payload.length < capacity 4

instance (limit : Nat) (p : CommandPacket) : Decidable (p.Fits limit) :=
  inferInstanceAs (Decidable (_ ∧ _))

/-- The bytes are those of a command.  Of its flags, only the one of a reply matters. -/
def Frames (limit : Nat) (p : CommandPacket) (bs : Bytes) : Prop :=
  p.Fits limit ∧ ∃ flags : UInt8, flags &&& replyFlag = 0 ∧ bs = p.frame flags

@[simp] theorem length_frame (flags : UInt8) (p : CommandPacket) :
    (p.frame flags).length = headerLength + p.payload.length := by
  simp [frame, Bytes.ofUInt32, headerLength]
  omega

/-- A command that is sent is framed. -/
theorem Fits.frames_encode {limit : Nat} {p : CommandPacket} (h : p.Fits limit) :
    p.Frames limit p.encode :=
  ⟨h, 0, rfl, rfl⟩

end CommandPacket

namespace Header

variable {limit : Nat} {data rest : Bytes}

/-- **What the format allows.** -/
theorem check_eq_ok_iff {h : Header} : h.check limit = .ok () ↔
    headerLength ≤ h.length ∧ h.length ≤ limit ∧ h.flags &&& replyFlag = 0 := by
  unfold check
  split
  · next hshort => exact iff_of_false nofun fun hall => absurd hall.1 (Nat.not_le_of_lt hshort)
  · next hshort =>
    split
    · next hlong => exact iff_of_false nofun fun hall => absurd hall.2.1 (Nat.not_le_of_lt hlong)
    · next hlong =>
      split
      · next hreply => exact iff_of_false nofun fun hall => hreply hall.2.2
      · next hreply =>
        exact iff_of_true rfl ⟨Nat.le_of_not_lt hshort, Nat.le_of_not_lt hlong,
          Decidable.not_not.mp hreply⟩

/-- The fields of a header, one after another. -/
theorem ofBytes_fields : ∀ {size id : Bytes}, size.length = 4 → id.length = 4 →
    ∀ (flags commandSet command : UInt8) (rest : Bytes),
      ofBytes (size ++ id ++ [flags, commandSet, command] ++ rest) =
        ⟨ofBigEndian size, UInt32.ofNat (ofBigEndian id), flags, commandSet, command⟩
  | [_, _, _, _], [_, _, _, _], _, _, _, _, _, _ => rfl

/-- Eleven bytes are the fields of a header. -/
theorem exists_fields : ∀ {data : Bytes}, headerLength ≤ data.length →
    ∃ size id : Bytes, size.length = 4 ∧ id.length = 4 ∧ ∃ flags commandSet command,
      data = size ++ id ++ [flags, commandSet, command] ++ data.drop headerLength
  | a :: b :: c :: d :: e :: f :: g :: h :: i :: j :: k :: _, _ =>
    ⟨[a, b, c, d], [e, f, g, h], rfl, rfl, i, j, k, rfl⟩

/-- Only the first eleven bytes count. -/
theorem ofBytes_append (h : headerLength ≤ data.length) (rest : Bytes) :
    ofBytes (data ++ rest) = ofBytes data := by
  obtain ⟨size, id, hsize, hid, flags, commandSet, command, hdata⟩ := exists_fields h
  rw [hdata, List.append_assoc, ofBytes_fields hsize hid, ofBytes_fields hsize hid]

theorem ofBytes_take {n : Nat} (h : headerLength ≤ n) (hn : n ≤ data.length) :
    ofBytes (data.take n) = ofBytes data := by
  have hlength := Nat.le_trans h (Nat.le_of_eq (List.length_take_of_le hn).symm)
  have happend := ofBytes_append hlength (data.drop n)
  rw [List.take_append_drop] at happend
  exact happend.symm

/-- The header of a frame. -/
theorem ofBytes_frame {p : CommandPacket} (hp : p.Fits limit) (flags : UInt8) (rest : Bytes) :
    ofBytes (p.frame flags ++ rest) =
      ⟨headerLength + p.payload.length, p.id, flags, p.commandSet, p.command⟩ := by
  have hsize : ofBigEndian (bigEndian 4 (headerLength + p.payload.length)) =
      headerLength + p.payload.length :=
    (ofBigEndian_bigEndian _ _).trans (Nat.mod_eq_of_lt hp.2)
  have hid : ofBigEndian (Bytes.ofUInt32 p.id) = p.id.toNat :=
    (ofBigEndian_bigEndian _ _).trans (Nat.mod_eq_of_lt p.id.toNat_lt)
  have hid' : (Bytes.ofUInt32 p.id).length = 4 := length_bigEndian _ _
  rw [CommandPacket.frame, List.append_assoc _ _ rest, ofBytes_fields (length_bigEndian _ _) hid',
    hsize, hid, UInt32.ofNat_toNat]

/-- Bytes that are as long as their header says are a frame. -/
theorem frame_withPayload (h : headerLength ≤ data.length)
    (hlength : (ofBytes data).length = data.length) :
    ((ofBytes data).withPayload (data.drop headerLength)).frame (ofBytes data).flags = data := by
  obtain ⟨size, id, hsize, hid, flags, commandSet, command, hdata⟩ := exists_fields h
  have hpayload : headerLength + (data.drop headerLength).length = (ofBytes data).length := by
    rw [List.length_drop, hlength]
    exact Nat.add_sub_cancel' h
  have hfields := ofBytes_fields hsize hid flags commandSet command (data.drop headerLength)
  rw [← hdata] at hfields
  have hsmall : ofBigEndian id < capacity 4 := ofBigEndian_lt hid
  simp only [CommandPacket.frame, withPayload, hpayload, Bytes.ofUInt32]
  rw [hfields]
  dsimp only
  rw [UInt32.toNat_ofNat_of_lt' hsmall, ← hsize, bigEndian_ofBigEndian rfl, hsize, ← hid,
    bigEndian_ofBigEndian rfl]
  exact hdata.symm

/-- The length of the payload that is announced.  None is, unless the header is there and is
allowed. -/
def announced (limit : Nat) (data : Bytes) : Nat :=
  if data.length < headerLength then 0
  else
    match (ofBytes data).check limit with
    | .error _ => 0
    | .ok () => (ofBytes data).payloadLength

theorem announced_of_lt (h : data.length < headerLength) : announced limit data = 0 :=
  if_pos h

theorem announced_of_check (h : headerLength ≤ data.length)
    (hcheck : (ofBytes data).check limit = .ok ()) :
    announced limit data = (ofBytes data).payloadLength := by
  rw [announced, if_neg (Nat.not_lt_of_le h), hcheck]

theorem announced_of_check_error {e : FramingError} (h : headerLength ≤ data.length)
    (hcheck : (ofBytes data).check limit = .error e) : announced limit data = 0 := by
  rw [announced, if_neg (Nat.not_lt_of_le h), hcheck]

end Header

/-! ## The front of a byte string -/

/-- What a reader of commands finds. -/
inductive Arrival where
  | packet (p : CommandPacket)
  /-- There are no more bytes. -/
  | ended
  | malformed (e : FramingError)
  /-- The bytes end inside a packet. -/
  | cutOff
deriving DecidableEq, Repr

namespace Arrival

variable {limit : Nat} {data rest bs : Bytes} {p : CommandPacket}

/-- What stands at the front of a byte string, and the bytes behind it. -/
def front (limit : Nat) (data : Bytes) : Arrival × Bytes :=
  let header := Header.ofBytes data
  if data = [] then (.ended, [])
  else if data.length < headerLength then (.cutOff, [])
  else
    match header.check limit with
    | .error e => (.malformed e, data.drop headerLength)
    | .ok () =>
      if data.length < header.length then (.cutOff, [])
      else (.packet (header.withPayload ((data.drop headerLength).take header.payloadLength)),
        data.drop header.length)

@[simp] theorem front_nil : front limit [] = (.ended, []) := rfl

theorem front_of_lt (hne : data ≠ []) (h : data.length < headerLength) :
    front limit data = (.cutOff, []) := by
  rw [front, if_neg hne, if_pos h]

theorem ne_nil_of_le (h : headerLength ≤ data.length) : data ≠ [] := by
  rintro rfl
  exact absurd h (by decide)

theorem front_of_check_error {e : FramingError} (h : headerLength ≤ data.length)
    (hcheck : (Header.ofBytes data).check limit = .error e) :
    front limit data = (.malformed e, data.drop headerLength) := by
  rw [front, if_neg (ne_nil_of_le h), if_neg (Nat.not_lt_of_le h), hcheck]

theorem front_of_check (h : headerLength ≤ data.length)
    (hcheck : (Header.ofBytes data).check limit = .ok ()) : front limit data =
      (if (data.drop headerLength).length < (Header.ofBytes data).payloadLength then .cutOff
        else .packet ((Header.ofBytes data).withPayload
          ((data.drop headerLength).take (Header.ofBytes data).payloadLength)),
        data.drop (headerLength + (Header.ofBytes data).payloadLength)) := by
  have hsize : headerLength + (Header.ofBytes data).payloadLength = (Header.ofBytes data).length :=
    Nat.add_sub_cancel' (Header.check_eq_ok_iff.mp hcheck).1
  rw [front, if_neg (ne_nil_of_le h), if_neg (Nat.not_lt_of_le h), hcheck, hsize]
  dsimp only
  split
  · next hcut =>
    rw [if_pos (by rw [List.length_drop]; omega), List.drop_of_length_le (Nat.le_of_lt hcut)]
  · next hcut => rw [if_neg (by rw [List.length_drop]; omega)]

/-- What a reader tells of the front; nothing, if it was the stream that failed. -/
def ofResult? : Except ConnectionError (Option CommandPacket) → Option Arrival
  | .ok (some p) => some (.packet p)
  | .ok none => some .ended
  | .error (.framing e) => some (.malformed e)
  | .error (.stream _ .closedMidPacket) => some .cutOff
  | .error _ => none

/-- A packet is at the front exactly if its header is allowed and its bytes are there. -/
theorem front_eq_packet_iff : front limit data = (.packet p, rest) ↔
    headerLength ≤ data.length ∧ (Header.ofBytes data).check limit = .ok () ∧
      (Header.ofBytes data).length ≤ data.length ∧
      p = (Header.ofBytes data).withPayload
        ((data.drop headerLength).take (Header.ofBytes data).payloadLength) ∧
      rest = data.drop (Header.ofBytes data).length := by
  refine ⟨fun h => ?_, ?_⟩
  · unfold front at h
    dsimp only at h
    split at h
    · cases h
    · split at h
      · cases h
      · next hshort =>
        split at h
        · cases h
        · next hcheck =>
          split at h
          · cases h
          · next hcut =>
            cases h
            exact ⟨Nat.le_of_not_lt hshort, hcheck, Nat.le_of_not_lt hcut, rfl, rfl⟩
  · rintro ⟨hheader, hcheck, hlength, rfl, rfl⟩
    have hsize := Nat.add_sub_cancel' (Header.check_eq_ok_iff.mp hcheck).1
    rw [← Header.payloadLength] at hsize
    rw [front_of_check hheader hcheck, if_neg (by rw [List.length_drop]; omega), hsize]

/-- The four ways a byte string can start. -/
theorem front_cases (limit : Nat) (data : Bytes) :
    data = [] ∨ data ≠ [] ∧ data.length < headerLength ∨ headerLength ≤ data.length ∧
      ((∃ e, (Header.ofBytes data).check limit = .error e) ∨
        (Header.ofBytes data).check limit = .ok ()) := by
  by_cases hnil : data = []
  · exact .inl hnil
  · refine .inr ((Nat.lt_or_ge _ _).imp (⟨hnil, ·⟩) (⟨·, ?_⟩))
    cases (Header.ofBytes data).check limit with
    | error e => exact .inl ⟨e, rfl⟩
    | ok _ => exact .inr rfl

/-- Whatever is found, what is announced is gone with it. -/
theorem front_snd (limit : Nat) (data : Bytes) :
    (front limit data).2 = data.drop (headerLength + Header.announced limit data) := by
  obtain rfl | ⟨hne, hshort⟩ | ⟨hheader, ⟨e, hcheck⟩ | hcheck⟩ := front_cases limit data
  · rw [front_nil, List.drop_nil]
  · rw [front_of_lt hne hshort, List.drop_of_length_le (by omega)]
  · rw [front_of_check_error hheader hcheck, Header.announced_of_check_error hheader hcheck,
      Nat.add_zero]
  · rw [front_of_check hheader hcheck, Header.announced_of_check hheader hcheck]

/-- A frame is found, and nothing behind it is touched. -/
theorem front_of_frames (h : p.Frames limit bs) (rest : Bytes) :
    front limit (bs ++ rest) = (.packet p, rest) := by
  obtain ⟨hfits, flags, hflags, rfl⟩ := h
  have hlength := p.length_frame flags
  rw [front_eq_packet_iff, Header.check_eq_ok_iff, Header.ofBytes_frame hfits, List.length_append,
    hlength]
  refine ⟨by omega, ⟨Nat.le_add_right _ _, hfits.1, hflags⟩, Nat.le_add_right _ _, ?_, ?_⟩
  · have hpayload : (p.frame flags).drop headerLength = p.payload :=
      List.drop_left' (by simp [Bytes.ofUInt32, headerLength])
    rw [List.drop_append_of_le_length (by omega), hpayload, Header.withPayload,
      Header.payloadLength, Nat.add_sub_cancel_left, List.take_left]
  · exact (List.drop_left' hlength).symm

/-- What is found is the frame at the front. -/
theorem exists_frames (h : front limit data = (.packet p, rest)) :
    ∃ bs, p.Frames limit bs ∧ data = bs ++ rest := by
  obtain ⟨hheader, hcheck, hlength, rfl, rfl⟩ := front_eq_packet_iff.mp h
  obtain ⟨hshort, hlong, hflags⟩ := Header.check_eq_ok_iff.mp hcheck
  have hsame := Header.ofBytes_take hshort hlength
  generalize hheader : Header.ofBytes data = header at *
  have hsmall : header.length < capacity 4 := by
    rw [← hheader]
    refine ofBigEndian_lt (List.length_take_of_le ?_)
    exact Nat.le_trans (by decide) ‹headerLength ≤ data.length›
  have htake : (data.take header.length).length = header.length := List.length_take_of_le hlength
  -- The bytes that the header announces have the same header, so they are its frame.
  have hframe := Header.frame_withPayload (Nat.le_trans hshort (Nat.le_of_eq htake.symm))
    (by rw [hsame, htake])
  rw [hsame, List.drop_take] at hframe
  refine ⟨data.take header.length, ⟨?_, header.flags, hflags, hframe.symm⟩,
    (List.take_append_drop _ _).symm⟩
  have hpayload : ((data.drop headerLength).take header.payloadLength).length =
      header.length - headerLength :=
    List.length_take_of_le (by rw [List.length_drop, Header.payloadLength]; omega)
  rw [CommandPacket.Fits, Header.withPayload, hpayload, Nat.add_sub_cancel' hshort]
  exact ⟨hlong, hsmall⟩

/-- What `n` readings in a row find, and the bytes that each leaves. -/
def fronts (limit : Nat) : Nat → Bytes → List (Option Arrival × Bytes)
  | 0, _ => []
  | n + 1, data =>
      (some (front limit data).1, (front limit data).2) :: fronts limit n (front limit data).2

end Arrival
end DebugWire

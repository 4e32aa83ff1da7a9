import DebugWire.Attempt
import DebugWire.Packet

/-!
# Stream — a byte stream whose every turn is written down

An `Inbound` is a stream to read from, an `Outbound` one to write to.  Each call uses the next
`Turn`: it moves at most so many bytes, or fails.  After the last turn a call moves as much as it
can.  Time spent waiting is a number of milliseconds, `slept`.

`Inbound.fill` collects a number of bytes across short reads and passing failures; what it hands out
is the front of the stream (`fill_eq_some`).
-/

namespace DebugWire

/-- How a call on a stream can fail. -/
inductive StreamFault where
  | interrupted
  | wouldBlock
  | timedOut
  | connectionReset
  | brokenPipe
  | unexpectedEof
  | permissionDenied
  | writeZero
deriving DecidableEq, Repr

/-- Whether the same call may succeed later. -/
def StreamFault.isTransient : StreamFault → Bool
  | .interrupted | .wouldBlock | .timedOut => true
  | _ => false

/-- What one call on a stream does. -/
inductive Turn where
  /-- It moves at most so many bytes. -/
  | move (limit : Nat)
  | fail (fault : StreamFault)
deriving DecidableEq, Repr

/-- Why a transfer was given up. -/
inductive Breakdown where
  | fault (f : StreamFault)
  /-- The stream ended inside a packet. -/
  | closedMidPacket
  /-- The stream accepts no more bytes. -/
  | closed
deriving DecidableEq, Repr

namespace Breakdown

/-- The kind of failure. -/
def kind : Breakdown → StreamFault
  | .fault f => f
  | .closedMidPacket => .unexpectedEof
  | .closed => .writeZero

/-- The words for a failure that the stream itself gave none for. -/
def note? : Breakdown → Option String
  | .fault _ => none
  | .closedMidPacket => some "connection closed mid-packet"
  | .closed => some "connection closed"

end Breakdown

/-- Why a connection ended badly. -/
inductive ConnectionError where
  /-- A transfer was given up in its `attempts`-th attempt. -/
  | stream (attempts : Nat) (cause : Breakdown)
  | framing (error : FramingError)
  | internal (reason : String)
deriving DecidableEq, Repr

/-- The wait before the `k`-th retry, in milliseconds: it doubles until the sixth. -/
def retryDelay (k : Nat) : Nat := 10 * Nat.pow 2 (min k 6)

/-! ## Reading -/

/-- A stream to read from. -/
structure Inbound where
  /-- What the next calls do. -/
  turns : List Turn
  /-- The bytes that were not read yet. -/
  data : Bytes
  /-- The time spent waiting. -/
  slept : Nat
deriving DecidableEq, Repr

namespace Inbound

/-- One call that asks for `want` bytes. -/
def read (want : Nat) (s : Inbound) : Except StreamFault Bytes × Inbound :=
  match s.turns with
  | [] => (.ok (s.data.take want), { s with data := s.data.drop want })
  | .move limit :: turns =>
      (.ok (s.data.take (min limit want)),
        { s with turns := turns, data := s.data.drop (min limit want) })
  | .fail fault :: turns => (.error fault, { s with turns := turns })

/-- Wait before the `k`-th retry. -/
def sleep (k : Nat) (s : Inbound) : Inbound := { s with slept := s.slept + retryDelay k }

theorem read_ok {want : Nat} {s t : Inbound} {bs : Bytes} (h : s.read want = (.ok bs, t)) :
    s.data = bs ++ t.data ∧ bs.length ≤ want ∧ t.turns.length ≤ s.turns.length := by
  unfold read at h
  split at h
  · obtain ⟨h₁, rfl⟩ := Prod.mk.inj h
    cases h₁
    exact ⟨(List.take_append_drop _ _).symm, List.length_take_le _ _, Nat.le_refl _⟩
  · next hturns =>
    obtain ⟨h₁, rfl⟩ := Prod.mk.inj h
    cases h₁
    refine ⟨(List.take_append_drop _ _).symm, ?_, ?_⟩
    · exact Nat.le_trans (List.length_take_le _ _) (Nat.min_le_right _ _)
    · rw [hturns]
      exact Nat.le_succ _
  · cases (Prod.mk.inj h).1

theorem read_error {want : Nat} {s t : Inbound} {f : StreamFault}
    (h : s.read want = (.error f, t)) :
    t.data = s.data ∧ t.turns.length < s.turns.length := by
  unfold read at h
  split at h
  · cases (Prod.mk.inj h).1
  · cases (Prod.mk.inj h).1
  · obtain ⟨_, rfl⟩ := Prod.mk.inj h
    simp_all

/-- Collect `want` more bytes behind `got`.  The stream may end in front of the first byte: then
there is nothing to collect.  A passing failure is retried until `patience` of them were. -/
def fillFrom (patience want : Nat) (got : Bytes) (retries : Nat) (s : Inbound) :
    Except ConnectionError (Option Bytes) × Inbound :=
  if want = 0 then (.ok (some got), s)
  else
    match h : s.read want with
    | (.ok [], t) =>
        if got = [] then (.ok none, t)
        else (.error (.stream (retries + 1) .closedMidPacket), t)
    | (.ok (b :: bs), t) =>
        fillFrom patience (want - (bs.length + 1)) (got ++ b :: bs) retries t
    | (.error f, t) =>
        if f.isTransient ∧ retries < patience then
          fillFrom patience want got (retries + 1) (t.sleep (retries + 1))
        else (.error (.stream (retries + 1) (.fault f)), t)
termination_by want + s.turns.length
decreasing_by
  · have := (read_ok h).2
    simp only [List.length_cons] at this
    omega
  · have := (read_error h).2
    simp only [sleep]
    omega

/-- Collect `want` bytes. -/
def fill (patience want : Nat) : Attempt ConnectionError Inbound (Option Bytes) :=
  fillFrom patience want [] 0

/-- **What was collected is the front of the stream**, and the rest is still there. -/
theorem fillFrom_eq_some {patience want : Nat} {got bs : Bytes} {retries : Nat} {s t : Inbound}
    (h : fillFrom patience want got retries s = (.ok (some bs), t)) :
    got ++ s.data = bs ++ t.data ∧ bs.length = got.length + want := by
  fun_induction fillFrom patience want got retries s with
  | case1 => simp_all
  | case2 => simp_all
  | case3 => simp_all
  | case4 _ _ _ _ _ _ _ _ hread ih =>
    obtain ⟨hdata, hlen, -⟩ := read_ok hread
    obtain ⟨ih₁, ih₂⟩ := ih h
    simp only [List.length_append, List.length_cons] at ih₂ hlen
    refine ⟨?_, by omega⟩
    rw [hdata, ← ih₁]
    simp
  | case5 _ _ _ _ _ _ _ hread _ ih =>
    have hdata := (read_error hread).1
    obtain ⟨ih₁, ih₂⟩ := ih h
    exact ⟨by rw [← ih₁, ← hdata]; rfl, ih₂⟩
  | case6 => simp_all

theorem fill_eq_some {patience want : Nat} {bs : Bytes} {s t : Inbound}
    (h : (fill patience want).run s = (.ok (some bs), t)) :
    s.data = bs ++ t.data ∧ bs.length = want := by
  simpa using fillFrom_eq_some h

/-- Read the next command.  At a clean end of the stream there is none. -/
def receive (patience limit : Nat) : Attempt ConnectionError Inbound (Option CommandPacket) := do
  match ← fill patience headerLength with
  | none => return none
  | some bs =>
      let header := Header.ofBytes bs
      Attempt.ofExcept ((header.check limit).mapError .framing)
      if header.payloadLength = 0 then return some (header.withPayload [])
      match ← fill patience header.payloadLength with
      | some payload => return some (header.withPayload payload)
      | none => throw (.stream 1 .closedMidPacket)

/-- Reading a command takes bytes from the stream. -/
theorem length_data_receive {patience limit : Nat} {p : CommandPacket} {s t : Inbound}
    (h : (receive patience limit).run s = (.ok (some p), t)) :
    t.data.length < s.data.length := by
  unfold receive at h
  rw [Attempt.run_bind] at h
  generalize hfill : (fill patience headerLength).run s = r at h
  obtain ⟨_ | _ | bs, u⟩ := r
  · simp at h
  · simp at h
  · obtain ⟨hdata, hlen⟩ := fill_eq_some hfill
    have hu : u.data.length < s.data.length := by
      rw [hdata, List.length_append, hlen, headerLength]
      omega
    cases hcheck : (Header.ofBytes bs).check limit with
    | error e => simp [Attempt.run_bind, hcheck] at h
    | ok _ =>
      simp only [Attempt.run_bind, Attempt.run_ofExcept, hcheck, Attempt.mapError_ok] at h
      split at h
      · simp only [Attempt.run_pure, Prod.mk.injEq] at h
        obtain ⟨-, rfl⟩ := h
        exact hu
      · rw [Attempt.run_bind] at h
        generalize hpay : (fill patience _).run u = r at h
        obtain ⟨_ | _ | payload, v⟩ := r
        · simp at h
        · simp at h
        · simp only [Attempt.run_pure, Prod.mk.injEq] at h
          obtain ⟨-, rfl⟩ := h
          rw [(fill_eq_some hpay).1, List.length_append] at hu
          omega

/-- Read commands until the stream ends or fails. -/
def receiveAll (patience limit : Nat) (s : Inbound) :
    List CommandPacket × Option ConnectionError × Inbound :=
  match _hs : (receive patience limit).run s with
  | (.ok (some p), t) =>
      let (ps, e, u) := receiveAll patience limit t
      (p :: ps, e, u)
  | (.ok none, t) => ([], none, t)
  | (.error e, t) => ([], some e, t)
termination_by s.data.length
decreasing_by exact length_data_receive _hs

end Inbound

/-! ## Writing -/

/-- A stream to write to. -/
structure Outbound where
  /-- What the next calls do. -/
  turns : List Turn
  /-- The bytes that were written so far. -/
  written : Bytes
  /-- What a flush fails with, if it fails. -/
  flushFault : Option StreamFault
  /-- The time spent waiting. -/
  slept : Nat
deriving DecidableEq, Repr

namespace Outbound

/-- Wait before the `k`-th retry. -/
def sleep (k : Nat) (s : Outbound) : Outbound := { s with slept := s.slept + retryDelay k }

/-- Hand on what was written. -/
def flush (s : Outbound) : Except ConnectionError Unit × Outbound :=
  match s.flushFault with
  | none => (.ok (), s)
  | some f => (.error (.stream 1 (.fault f)), s)

/-- Write the bytes, then flush; `turns` are the next calls on the stream.  A call that moves
nothing means that the stream is closed. -/
def sendFrom (patience : Nat) (turns : List Turn) (bs : Bytes) (retries : Nat) (s : Outbound) :
    Except ConnectionError Unit × Outbound :=
  match bs, turns with
  | [], turns => flush { s with turns := turns }
  | bs, [] => flush { s with turns := [], written := s.written ++ bs }
  | _ :: _, .move 0 :: turns =>
      (.error (.stream (retries + 1) .closed), { s with turns := turns })
  | bs, .move limit :: turns =>
      sendFrom patience turns (bs.drop limit) retries
        { s with written := s.written ++ bs.take limit }
  | bs, .fail f :: turns =>
      if f.isTransient ∧ retries < patience then
        sendFrom patience turns bs (retries + 1) (s.sleep (retries + 1))
      else (.error (.stream (retries + 1) (.fault f)), { s with turns := turns })

/-- Write a packet and flush. -/
def send (patience : Nat) (bs : Bytes) : Attempt ConnectionError Outbound Unit :=
  fun s => sendFrom patience s.turns bs 0 s

end Outbound
end DebugWire

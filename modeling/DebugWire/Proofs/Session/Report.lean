import DebugWire.Proofs.Session.Calls
import DebugWire.Session.Report

/-!
# Proofs/Session/Report — which calls of the table a report makes

The payload of an event packet is written by the registry alone, part by part, and names what the
registrations hand out (`Finding.calls_composite`).  A report that tells nobody anything leaves the
table as it was (`Backend.handing_announce`).
-/

namespace DebugWire

open Writing

variable {L : List Naming}

/-! ## The parts of a payload -/

/-- A part of a payload is written by registrations, and names what they hand out. -/
def WritesPart (x : StateM Registry Body) : Prop :=
  ∀ L, Calls Operation.registers L x fun body => L ++ body.names

/-- Nothing is named in place of a missing part. -/
theorem writesPart_writePart {α : Type} {write : α → StateM Registry Body} {missing : Body}
    (part : Option α) (hmissing : missing.names = []) (h : ∀ a, WritesPart (write a)) :
    WritesPart (writePart part missing write) := by
  cases part with
  | some a => exact h a
  | none => exact fun L => .pure (by simp [hmissing])

theorem Placement.writesPart_write (p : Placement) : WritesPart p.write := by
  refine fun L => (calls_registerTagged p.declaringType p.tag rfl).bind fun t => ?_
  exact (calls_register p.method .method rfl).bind fun id => .pure (by simp)

theorem TargetValue.writesPart_write (v : TargetValue) : WritesPart v.write :=
  fun _ => .map (calls_toWire v rfl)

theorem Detail.writesPart_write (kind : EventKind) (d : Detail) : WritesPart (d.write kind) := by
  intro L
  cases d with
  | nothing => exact .pure (List.append_nil L)
  | preparedType type tag signature status =>
    exact (calls_registerTagged type tag rfl).bind fun t => .pure (by simp)
  | unloadedType signature => exact .pure (List.append_nil L)
  | returned value =>
    change Calls _ L (if kind = _ then value.write else pure []) _
    split
    · exact value.writesPart_write L
    · exact .pure (List.append_nil L)
  | thrown exception handler =>
    refine (TargetValue.writesPart_write _ L).bind fun object => ?_
    exact (writesPart_writePart handler rfl Placement.writesPart_write _).bind fun place =>
      .pure (by simp)
  | touched type tag field object value =>
    refine (calls_registerTagged type tag rfl).bind fun t => ?_
    refine (calls_register field .field rfl).bind fun id => ?_
    refine (TargetValue.writesPart_write _ _).bind fun owner => ?_
    exact (writesPart_writePart value rfl TargetValue.writesPart_write _).bind fun set =>
      .pure (by simp)

namespace Finding

theorem writesPart_write (f : Finding) (h : Hit) : WritesPart (f.write h) := by
  intro L
  refine (writesPart_writePart f.sighting.thread rfl
    (fun thread L => .map (calls_register thread _ rfl)) L).bind fun thread => ?_
  refine (writesPart_writePart f.place rfl Placement.writesPart_write _).bind fun place => ?_
  exact (f.detail.writesPart_write h.kind _).bind fun detail => .pure (by simp)

/-- **What all requests that were met are told.** -/
theorem calls_composite (f : Finding) (policy : SuspendPolicy) (hits : List Hit) :
    Calls Operation.registers [] (f.composite policy hits) Body.names :=
  (Calls.mapM hits [] fun h _ => f.writesPart_write h).bind fun bodies => .pure (by simp)

end Finding

/-! ## Reports -/

namespace Backend

variable {σ : Type}

theorem registry_enqueue (b : Backend σ) (packet : Bytes) :
    (b.enqueue packet).registry = b.registry := by
  unfold enqueue
  split <;> rfl

theorem queue_enqueue {b : Backend σ} (h : b.outlet ≠ .dropped) (packet : Bytes) :
    (b.enqueue packet).queue = b.queue ++ [packet] := by
  unfold enqueue
  split
  · exact absurd ‹_› h
  · rfl

/-- What those who are told get names what was handed out. -/
theorem handing_deliver (f : Finding) (hits : List Hit) (b : Backend σ) :
    b.registry.Handing Operation.registers [] (b.deliver f hits).2.registry
      (b.deliver f hits).1.names := by
  have hregistry : (b.deliver f hits).2.registry =
      ((f.composite (.strongest (hits.map (·.policy))) hits).run b.registry).2 :=
    registry_enqueue _ _
  rw [hregistry]
  exact f.calls_composite _ hits b.registry

variable [Target σ]

/-- A report tells nobody anything, or it is delivered by a backend with the same table, and the
same queue. -/
theorem announce_cases (o : Occurrence) (b : Backend σ) :
    ((b.announce o).2.registry = b.registry ∧ ∀ body, (b.announce o).1 ≠ .ok (some body)) ∨
      ∃ f hits, ∃ c : Backend σ,
        b.announce o = (.ok (some (c.deliver f hits).1), (c.deliver f hits).2) ∧
          c.registry = b.registry ∧ c.queue = b.queue ∧ c.outlet = b.outlet := by
  unfold announce
  split
  · exact Or.inl ⟨rfl, by simp⟩
  simp only
  split
  · exact Or.inl ⟨rfl, by simp⟩
  split
  · exact Or.inl ⟨rfl, by simp⟩
  · exact Or.inr ⟨_, _, _, rfl, rfl, rfl, rfl⟩

/-- What is told is what is in the packet that is queued. -/
theorem queue_announce {o : Occurrence} {b : Backend σ} {body : Body}
    (h : (b.announce o).1 = .ok (some body)) (houtlet : b.outlet ≠ .dropped) :
    ∃ id, (b.announce o).2.queue =
      b.queue ++ [CommandPacket.encode ⟨id, 64, 100, body.bytes⟩] := by
  obtain ⟨-, hnobody⟩ | ⟨f, hits, c, hannounce, -, hqueue, houtlet'⟩ := announce_cases o b
  · exact absurd h (hnobody body)
  · rw [hannounce] at h ⊢
    obtain rfl : (c.deliver f hits).1 = body := Option.some.inj (Except.ok.inj h)
    rw [← houtlet'] at houtlet
    refine ⟨c.nextPacketId, ?_⟩
    rw [← hqueue]
    refine queue_enqueue ?_ _
    exact houtlet

/-- **What a report hands out is what it tells**, if it tells anything. -/
theorem handing_announce (o : Occurrence) (b : Backend σ) :
    b.registry.Handing Operation.registers [] (b.announce o).2.registry
      (Body.names ((b.announce o).1.toOption.join.getD [])) := by
  obtain ⟨hregistry, hnobody⟩ | ⟨f, hits, c, hannounce, hregistry, -, -⟩ := announce_cases o b
  · rcases hannounce : b.announce o with ⟨e | told, d⟩
    · rw [hannounce] at hregistry
      exact hregistry ▸ .refl _ _ _
    · rw [hannounce] at hregistry hnobody
      cases told with
      | none => exact hregistry ▸ .refl _ _ _
      | some body => exact absurd rfl (hnobody body)
  · rw [hannounce, ← hregistry]
    exact handing_deliver f hits c

end Backend
end DebugWire

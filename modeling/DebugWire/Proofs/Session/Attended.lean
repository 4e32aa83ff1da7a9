import DebugWire.Proofs.Session.Outgoing
import DebugWire.Proofs.Session.Unattended

/-!
# Proofs/Session/Attended — what a connection writes while other things happen

Between two steps of a connection the target runs on and reports.  If each time a course of regular
happenings goes by (`Meanwhile.Regular`), the whole connection is such a course, and what it writes
are packets that waited when it began, packets that were composed in the course of it, and replies
(`Backend.course_of_serveWhile`).
-/

namespace DebugWire

open Outbound

variable {σ : Type} [Target σ]

namespace Backend

variable {b : Backend σ} {h : Happening σ} {hs : List (Happening σ)}

/-! ## Packets that are composed -/

/-- The packets that a step composes. -/
def composes (b : Backend σ) : Happening σ → List Bytes
  | .report o => packets b.nextPacketId (b.announce o).1
  | _ => []

/-- What is composed goes behind the packets that wait, and some of those may be gone. -/
theorem queue_next (hregular : h.Regular) :
    (b.next h).2.queue.Sublist (b.queue ++ b.composes h) := by
  have hmono {c : Backend σ} (hqueue : c.queue.Sublist b.queue) :
      c.queue.Sublist (b.queue ++ b.composes h) := hqueue.trans (List.sublist_append_left _ _)
  obtain hidle | rfl | rfl | rfl | ⟨known, commandSet, command, payload, rfl⟩ := hregular.idle_or
  · obtain ⟨o, rfl⟩ | ⟨-, target, registry, n, hnext⟩ := idle_cases hidle b
    · rw [next_report]
      exact (b.announces o).queue_sublist
    · refine hmono ?_
      rw [hnext]
      exact List.drop_sublist n _
  · exact hmono (List.Sublist.refl _)
  · obtain ⟨outlet, disposed, hnext⟩ := b.next_connected
    exact hmono (by simp only [hnext, List.Sublist.refl])
  · exact hmono (List.Sublist.refl _)
  · exact hmono (by simp only [next_command, queue_run, List.Sublist.refl])

theorem queue_after (hregular : ∀ h ∈ hs, h.Regular) :
    (b.after hs).queue.Sublist (b.queue ++ b.gather composes hs) := by
  induction hs generalizing b with
  | nil => exact List.sublist_append_left _ _
  | cons h hs ih =>
    obtain ⟨hh, hhs⟩ := List.forall_mem_cons.mp hregular
    rw [after_cons, gather, ← List.append_assoc]
    exact (ih hhs).trans ((queue_next hh).append_right _)

end Backend

/-! ## While a connection is served -/

/-- Whatever the backend is, what happens is a course of regular happenings. -/
def Meanwhile.Regular (m : Meanwhile σ) : Prop := ∀ b : Backend σ, b.Reaches (m.change b)

theorem Meanwhile.regular_nothing : (Meanwhile.nothing σ).Regular := .refl

theorem Meanwhile.regular_report (o : Occurrence) : (Meanwhile.report o : Meanwhile σ).Regular := by
  intro b
  have hnext := Backend.Reaches.next b (h := .report o) trivial
  rwa [Backend.next_report] at hnext

namespace Backend

/-- One step of a connection is a course of regular happenings. -/
theorem reaching_step (inbound : Inbound) :
    (step inbound : Sending σ (Option Inbound)).Reaching := by
  intro s
  rw [step, Attempt.run_bind_of_ok (Attempt.run_get s)]
  dsimp only
  split
  · refine (reaching_sendWaiting _).bind (fun _ => ?_) s
    exact fun s => .refl s.1
  · split
    · exact .refl s.1
    · exact .refl s.1
    · refine (reaching_handle _).bind (fun _ => ?_) s
      exact fun s => .refl s.1

/-- One step writes a packet that waits, or a reply. -/
theorem wrote_step (inbound : Inbound) (b : Backend σ) (out : Outbound) :
    Wrote (fun p => p ∈ b.queue ∨ IsReply p) (Attempt.run (step inbound) (b, out)).1.isOk out
      (Attempt.run (step inbound) (b, out)).2.2 := by
  rw [step, Attempt.run_bind_of_ok (Attempt.run_get (b, out))]
  dsimp only
  split
  · next packet rest hqueue =>
    have hwaits : ∀ p ∈ [packet], p ∈ b.queue ∨ IsReply p := by
      simp [hqueue]
    refine ((writes_sendWaiting hwaits).bind (fun _ => ?_) (b, out)).2
    exact fun s => ⟨List.suffix_rfl, .of_eq rfl⟩
  · split
    · exact .of_eq rfl
    · exact .of_eq rfl
    · refine ((writes_handle (fun _ => Or.inr) _).bind (fun _ => ?_) (b, out)).2
      exact fun s => ⟨List.suffix_rfl, .of_eq rfl⟩

/-- A part of a connection, which goes from `b` to `c`, is a course of regular happenings.  It
writes packets that waited, packets that were composed in the course of it, and replies. -/
structure Attends (b : Backend σ) (out : Outbound) (during : List (Happening σ)) (c : Backend σ)
    (out' : Outbound) (complete : Prop) : Prop where
  regular : ∀ h ∈ during, h.Regular
  after : c = b.after during
  wrote : Wrote (fun p => p ∈ b.queue ++ b.gather composes during ∨ IsReply p) complete out out'

variable {b c d : Backend σ} {out out' out'' : Outbound} {complete : Prop}

theorem exists_attends (hreaches : b.Reaches c)
    (hwrote : Wrote (fun p => p ∈ b.queue ∨ IsReply p) complete out out') :
    ∃ during, b.Attends out during c out' complete := by
  obtain ⟨during, hregular, hafter⟩ := hreaches
  exact ⟨during, hregular, hafter, hwrote.imp fun p => Or.imp_left (List.mem_append_left _)⟩

/-- What waits after the first part waited before, or was composed in the course of it. -/
theorem Attends.trans {during during' : List (Happening σ)} (h : b.Attends out during c out' True)
    (h' : c.Attends out' during' d out'' complete) :
    b.Attends out (during ++ during') d out'' complete where
  regular x hx := (List.mem_append.mp hx).elim (h.regular x) (h'.regular x)
  after := by rw [after_append, ← h.after, h'.after]
  wrote := by
    have hqueue := h.after ▸ queue_after h.regular
    rw [gather_append, ← h.after]
    refine (h.wrote.imp fun p hp => ?_).trans (h'.wrote.imp fun p hp => ?_)
    · exact hp.imp_left fun hwaits => by
        rw [← List.append_assoc]
        exact List.mem_append_left _ hwaits
    · exact hp.imp_left fun hwaits => by
        rw [← List.append_assoc]
        exact (hqueue.append_right _).subset hwaits

theorem Attends.mono {complete' : Prop} {during : List (Happening σ)}
    (h : b.Attends out during c out' complete) (himp : complete' → complete) :
    b.Attends out during c out' complete' := ⟨h.regular, h.after, h.wrote.mono himp⟩

/-- Something else happens behind the last packet. -/
theorem Attends.next {during : List (Happening σ)} (h : b.Attends out during c out' complete)
    {x : Happening σ} (hx : x.Regular) :
    b.Attends out (during ++ [x]) (c.next x).2 out' complete where
  regular y hy := (List.mem_append.mp hy).elim (h.regular y) fun hlast =>
    List.mem_singleton.mp hlast ▸ hx
  after := by rw [after_snoc, ← h.after]
  wrote := h.wrote.imp fun p hp => hp.imp_left fun hwaits => by
    rw [gather_append, ← List.append_assoc]
    exact List.mem_append_left _ hwaits

/-- **A connection is a course of happenings**, step by step and moment by moment. -/
theorem course_of_serveAmid {schedule : List (Moment σ)}
    (hregular : ∀ m ∈ schedule, m.Regular) (inbound : Inbound) (b : Backend σ) (out : Outbound) :
    ∃ during, b.Attends out during (serveAmid schedule inbound b out).2.1
      (serveAmid schedule inbound b out).2.2 False := by
  induction schedule generalizing inbound b out with
  | nil =>
    refine exists_attends (reaches_serveFrom inbound b out) ?_
    exact (wrote_serveFrom (fun _ => Or.inr) inbound b out fun _ => Or.inl).mono False.elim
  | cons m schedule ih =>
    obtain ⟨hm, hschedule⟩ := List.forall_mem_cons.mp hregular
    obtain ⟨since, hsince⟩ : ∃ since, b.Attends out since (m.change b) out True :=
      exists_attends (hm b) (.of_eq rfl)
    rw [serveAmid]
    split
    · exact ⟨since, hsince.mono False.elim⟩
    · have hreaches := reaching_step inbound (m.change b, out)
      have hwrote := wrote_step inbound (m.change b) out
      rcases hrun : Attempt.run (step inbound) (m.change b, out) with ⟨e | inbound', c, out'⟩
      · rw [hrun] at hreaches hwrote
        obtain ⟨meanwhile, hstep⟩ := exists_attends hreaches hwrote
        exact ⟨_, hsince.trans (hstep.mono False.elim)⟩
      · rw [hrun] at hreaches hwrote
        obtain ⟨meanwhile, hstep⟩ := exists_attends hreaches hwrote
        cases inbound' with
        | none => exact ⟨_, hsince.trans (hstep.mono False.elim)⟩
        | some inbound' =>
          obtain ⟨during, hrest⟩ := ih hschedule inbound' c out'
          exact ⟨_, (hsince.trans (hstep.mono fun _ => rfl)).trans hrest⟩

/-- **What a connection writes while other things happen**: packets that waited when it began,
packets that were composed in the course of it, and replies. -/
theorem course_of_serveWhile {schedule : List (Moment σ)} (hregular : ∀ m ∈ schedule, m.Regular)
    (inbound : Inbound) (out : Outbound) (b : Backend σ) :
    ∃ during, b.Attends out during (b.serveWhile schedule inbound out).2.1
      (b.serveWhile schedule inbound out).2.2 False := by
  unfold serveWhile
  cases htake : b.takeOutlet with
  | none => exact exists_attends (.refl b) (.of_eq rfl)
  | some c =>
    have hconnected : (b.next .connected).2 = c.reset := by
      unfold next
      rw [htake]
      rfl
    have hreset : b.Reaches c.reset := hconnected ▸ .next b (h := .connected) trivial
    obtain ⟨start, hstart⟩ : ∃ start, b.Attends out start c.reset out True :=
      exists_attends hreset (.of_eq rfl)
    obtain ⟨during, hserved⟩ := course_of_serveAmid hregular inbound c.reset out
    exact ⟨_, (hstart.trans hserved).next (x := .hungUp) trivial⟩

end Backend
end DebugWire

import DebugWire.Proofs.Event.Numbering
import DebugWire.Proofs.Event.Spelling
import DebugWire.Proofs.Session.Delivery

/-!
# Proofs/Session/Installing — requests are set as a whole or not at all

A request is read to its last filter before anything is installed.  So a payload that is refused
leaves the backend as it was, whatever was read before the fault.  A payload that spells a request
is answered with the id under which just this request is installed (`allOrNothing_of_few`).

The id is free unless the ids came round.  `comesOf_after` follows the requests that were set over a
course of happenings.
-/

namespace DebugWire

variable {α σ : Type}

/-! ## Numbers -/

theorem EventKind.ofNumber?_eq_some_iff {n : UInt8} {kind : EventKind} :
    EventKind.ofNumber? n = some kind ↔ n = kind.number := by
  constructor
  · intro h
    exact (eq_of_beq (List.find?_some h :)).symm
  · rintro rfl
    exact EventKind.ofNumber?_number kind

theorem SuspendPolicy.ofNumber_eq_ok_iff {n : UInt8} {policy : SuspendPolicy} :
    SuspendPolicy.ofNumber n = .ok policy ↔ n = policy.number := by
  constructor
  · intro h
    unfold SuspendPolicy.ofNumber at h
    split at h <;> cases h <;> rfl
  · rintro rfl
    exact SuspendPolicy.ofNumber_number policy

/-- An error of the payload is told with a code that says so. -/
theorem CommandError.Blames.replyCode {e : CommandError} (h : e.Blames) :
    ∃ code, e.replyCode = some code ∧ code ≠ .none := by
  cases h with
  | invalidId expected id =>
    refine ⟨_, rfl, ?_⟩
    cases expected with
    | object kind => cases kind <;> decide
    | _ => decide
  | malformed error => exact ⟨_, rfl, by cases error <;> exact nofun⟩

/-! ## Reading, as a step of a command -/

namespace Parses

variable {b : Backend σ}

theorem read {x : Read α} {F : Bytes → α → Prop} (h : Parses id x F) :
    Parses (Call.mk b) (Action.read x) F := by
  unfold Action.read
  exact h.within (fun _ => rfl) fun _ _ => rfl

theorem decode {x : Registry → Decode α} {F : Bytes → α → Prop} (h : Parses id (x b.registry) F) :
    Parses (Call.mk b) (Action.decode x) F := by
  have hread : Parses (Call.mk b) (Attempt.within (·.cursor)
      (fun t c => { c with cursor := t }) id (x b.registry) : Action σ α) F :=
    h.within (fun _ => rfl) fun _ _ => rfl
  -- The backend that is looked at is `b` throughout.
  exact fun p rest a c => hread p rest a c

/-- So many items in a row. -/
theorem times {γ : Type} {write : γ → Bytes} {Q : γ → α → Prop} {x : Action σ α}
    (hx : Parses (Call.mk b) x fun bs a => ∃ c, bs = write c ∧ Q c a) (n : Nat) :
    Parses (Call.mk b) (Action.times n x) fun bs as =>
      ∃ cs, bs = cs.flatMap write ∧ cs.length = n ∧ List.Forall₂ Q cs as := by
  induction n with
  | zero =>
    refine (Parses.pure []).congr fun bs as => ?_
    constructor
    · rintro ⟨rfl, rfl⟩
      exact ⟨[], rfl, rfl, .nil⟩
    · rintro ⟨cs, rfl, hnone, hQ⟩
      obtain rfl := List.eq_nil_of_length_eq_zero hnone
      cases hQ
      exact ⟨rfl, rfl⟩
  | succ n ih =>
    refine (hx.bind fun a => ih.last fun as => .pure (a :: as)).congr fun bs as => ?_
    constructor
    · rintro ⟨_, _, a, ⟨c, rfl, hc⟩, ⟨as, ⟨cs, rfl, rfl, hcs⟩, rfl⟩, rfl⟩
      exact ⟨c :: cs, rfl, rfl, .cons hc hcs⟩
    · rintro ⟨cs, rfl, hn, hQ⟩
      cases hQ with
      | nil => cases hn
      | cons hc hcs =>
        exact ⟨_, _, _, ⟨_, rfl, hc⟩, ⟨_, ⟨_, rfl, Nat.succ.inj hn, hcs⟩, rfl⟩, rfl⟩

end Parses

namespace Answer

open DebugWire.Action

variable {b : Backend σ}

theorem parses_eventKind : Parses (Call.mk b) (eventKind : Action σ EventKind)
    fun bs kind => bs = Bytes.ofUInt8 kind.number := by
  refine ((Parses.read Read.parses_uint8).last (P := fun raw kind => raw = kind.number)
    fun raw => ?_).congr fun bs kind => by simp
  cases hkind : EventKind.ofNumber? raw with
  | some kind =>
    refine (Parses.pure kind).congr fun bs kind' => and_congr_right fun _ => ?_
    rw [← EventKind.ofNumber?_eq_some_iff, hkind, Option.some.injEq, eq_comm]
  | none =>
    refine (Parses.throw _).congr fun bs kind => iff_of_false id fun h => ?_
    rw [← EventKind.ofNumber?_eq_some_iff, hkind] at h
    cases h.2

theorem parses_suspendPolicy : Parses (Call.mk b) (suspendPolicy : Action σ SuspendPolicy)
    fun bs policy => bs = Bytes.ofUInt8 policy.number := by
  refine ((Parses.read Read.parses_uint8).last fun raw => .ofExcept _).congr fun bs policy => ?_
  simp only [Attempt.mapError_eq_ok_iff, SuspendPolicy.ofNumber_eq_ok_iff, exists_eq_right]

/-- What is read before a request is set. -/
def wish : Action σ (EventKind × SuspendPolicy × List Modifier) := do
  let kind ← eventKind
  let policy ← suspendPolicy
  let modifiers ← times (← read Read.count) (decode Modifier.read)
  return (kind, policy, modifiers)

/-- The command is a wish that is read to its end, and then one change of the requests. -/
theorem setRequest_eq : (setRequest : Action σ Bytes) = wish >>= fun (kind, policy, modifiers) =>
    Bytes.ofInt32 <$> onRequests (·.set kind policy modifiers) := by
  simp [setRequest, wish]

/-- **What is asked for is what the payload spells.** -/
theorem parses_wish : Parses (Call.mk b) (wish : Action σ _) fun bs wished =>
    ∃ q : WireRequest, bs = q.bytes ∧ q.kind = wished.1 ∧ q.policy = wished.2.1 ∧
      q.StandsFor b.registry wished.2.2 := by
  refine (parses_eventKind.bind fun kind => parses_suspendPolicy.bind fun policy =>
    (Parses.read Read.parses_count).bind fun n =>
      (Parses.times (.decode (WireModifier.parses_read b.registry)) n).last fun ms =>
        .pure (kind, policy, ms)).congr fun bs wished => ?_
  constructor
  · rintro ⟨_, _, kind, rfl, ⟨_, _, policy, rfl, ⟨_, _, n, ⟨hn, rfl⟩,
      ⟨ms, ⟨ws, rfl, rfl, hws⟩, rfl⟩, rfl⟩, rfl⟩, rfl⟩
    exact ⟨⟨kind, policy, ws⟩, by simp [WireRequest.bytes], rfl, rfl, hn, hws⟩
  · rintro ⟨⟨kind, policy, ws⟩, rfl, rfl, rfl, hn, hws⟩
    exact ⟨_, _, _, rfl, ⟨_, _, _, rfl, ⟨_, _, _, ⟨hn, rfl⟩, ⟨_, ⟨ws, rfl, rfl, hws⟩, rfl⟩, rfl⟩,
      rfl⟩, by simp [WireRequest.bytes]⟩

/-- Whatever is read leaves the backend alone, and fails only if the payload is to blame. -/
theorem keeps_wish {I : Backend σ → Prop} {E : CommandError → Prop}
    (hblames : ∀ e : CommandError, e.Blames → E e) : Keeps I E (wish : Action σ _) := by
  refine (keeps_eventKind hblames).bind fun kind => ?_
  refine (keeps_suspendPolicy hblames).bind fun policy => (keeps_read hblames _).bind fun n => ?_
  exact (keeps_times (keeps_decode hblames Modifier.blames_read) n).bind fun ms => .pure _

/-- A payload that spells a request is carried out. -/
theorem perform_setRequest {q : WireRequest} {ms : List Modifier} (h : q.StandsFor b.registry ms)
    (rest : Bytes) : setRequest.perform (q.bytes ++ rest) b =
      (.ok (Bytes.ofInt32 b.requests.nextId),
        { b with requests := (b.requests.set q.kind q.policy ms).2 }) := by
  have hrun := (parses_wish (b := b)).run (a := (q.kind, q.policy, ms)) ⟨q, rfl, rfl, rfl, h⟩ 0 rest
  rw [perform, setRequest_eq, Cursor.start, Attempt.run_bind_of_ok hrun]
  rfl

/-- **Any other payload is refused,** and changes nothing. -/
theorem perform_setRequest_cases (payload : Bytes) (b : Backend σ) :
    (∃ q ms rest, payload = q.bytes ++ rest ∧ WireRequest.StandsFor b.registry q ms) ∨
      ∃ e : CommandError, e.Blames ∧ setRequest.perform payload b = (.error e, b) := by
  rcases hrun : wish.run ⟨b, .start payload⟩ with ⟨e | wished, c⟩
  · have hkeeps : Keeps (· = b) CommandError.Blames (wish : Action σ _) := keeps_wish fun _ h => h
    obtain ⟨hbackend, hblames⟩ := hkeeps ⟨b, .start payload⟩ rfl
    rw [hrun] at hbackend hblames
    refine Or.inr ⟨e, hblames e rfl, ?_⟩
    rw [perform, setRequest_eq, Attempt.run_bind_of_error hrun]
    exact Prod.ext rfl hbackend
  · obtain ⟨_, rest, ⟨q, rfl, -, -, hq⟩, rfl, -⟩ := (parses_wish 0 payload wished c).mp hrun
    exact Or.inl ⟨q, _, rest, rfl, hq⟩

end Answer

namespace Backend

variable {b : Backend σ} {calls : List RequestTable.Call}

/-! ## A request that is installed -/

/-- A request is added under an id that was free, and nothing else changes. -/
structure Installs (b : Backend σ) (q : WireRequest) (ms : List Modifier) (id : Int32)
    (b' : Backend σ) : Prop where
  positive : 0 < id
  free : id ∉ b.requests.byId
  /-- The request is enabled, and has not been asked about anything. -/
  installed : b'.requests.byId[id]? = some ⟨id, q.kind, q.policy, ms, true, none⟩
  others : ∀ i, i ≠ id → b'.requests.byId[i]? = b.requests.byId[i]?
  size : b'.requests.size = b.requests.size + 1
  elsewhere : b' = { b with requests := b'.requests }

theorem installs_of_few (hcomes : b.requests.ComesOf calls)
    (hfew : RequestTable.sets calls < 2 ^ 31 - 1) (q : WireRequest) (ms : List Modifier) :
    b.Installs q ms b.requests.nextId
      { b with requests := (b.requests.set q.kind q.policy ms).2 } where
  positive := by
    rw [hcomes.nextId]
    exact RequestTable.numbered_pos _
  free := hcomes.nextId_not_mem hfew
  installed := by
    rw [RequestTable.getElem?_set, if_pos rfl]
    rfl
  others i hi := by rw [RequestTable.getElem?_set, if_neg hi.symm]
  size := by
    have hfree := hcomes.nextId_not_mem hfew
    simp [RequestTable.size, RequestTable.set, Std.TreeMap.size_insert, hfree]
  elsewhere := rfl

/-! ## Requests over a course of happenings -/

variable [Target σ]

/-- A report only asks, so it sets no request. -/
theorem comesOf_announce (h : b.requests.ComesOf calls) (o : Occurrence) :
    ∃ asks, RequestTable.sets asks = 0 ∧ (b.announce o).2.requests.ComesOf (asks ++ calls) := by
  by_cases hdisposed : b.disposed
  · rw [announce_of_disposed hdisposed]
    exact ⟨[], rfl, h⟩
  rcases hfind : (Finding.find b.requests.nextSerial o).run b.target with ⟨refusal | f, target⟩
  · rw [announce_of_refused hdisposed hfind]
    exact ⟨[], rfl, h.takeSerial⟩
  · rw [requests_of_found hdisposed hfind]
    exact h.takeSerial.hitsOf f.sighting o.kinds

/-- One happening sets one request at most. -/
theorem comesOf_next (hb : b.requests.ComesOf calls) {h : Happening σ} (horderly : h.Orderly) :
    ∃ new, RequestTable.sets new ≤ 1 ∧ (b.next h).2.requests.ComesOf (new ++ calls) := by
  by_cases hreport : ∃ o, h = .report o
  · obtain ⟨o, rfl⟩ := hreport
    obtain ⟨asks, hasks, hcomes⟩ := comesOf_announce hb o
    rw [next_report]
    exact ⟨asks, by omega, hcomes⟩
  · exact hb.edit (edit_next horderly fun o ho => hreport ⟨o, ho⟩)

/-- **The requests of a session come of calls,** and of no more that set one than things
happened. -/
theorem comesOf_after {hs : List (Happening σ)} (horderly : ∀ h ∈ hs, h.Orderly)
    (hb : b.requests.ComesOf calls) :
    ∃ new, RequestTable.sets new ≤ hs.length ∧ (b.after hs).requests.ComesOf (new ++ calls) := by
  induction hs generalizing b calls with
  | nil => exact ⟨[], Nat.zero_le _, hb⟩
  | cons h hs ih =>
    obtain ⟨hfirst, hrest⟩ := List.forall_mem_cons.mp horderly
    obtain ⟨new, hnew, hcomes⟩ := comesOf_next hb hfirst
    obtain ⟨later, hlater, hcomes'⟩ := ih hrest hcomes
    refine ⟨later ++ new, ?_, ?_⟩
    · rw [RequestTable.sets_append, List.length_cons]
      omega
    · rw [List.append_assoc]
      exact hcomes'

/-! ## The command -/

theorem find?_setRequest : Command.find? Command.all 15 1 = some .setRequest :=
  Command.find?_numbers .setRequest

/-- A target that is gone refuses before the payload is looked at. -/
theorem dispatch_of_dead (hdead : ¬ Target.isAlive b.target) (payload : Bytes) :
    b.dispatch Command.all 15 1 payload = (.ok (.failed .vmDead), b) := by
  have hrun : b.run Command.all 15 1 payload = (.error (.refused .vmDead), b) := by
    rw [run, find?_setRequest]
    exact if_pos ⟨by simpa using hdead, rfl⟩
  rw [dispatch, hrun]
  rfl

section

variable (halive : Target.isAlive b.target) {payload : Bytes} {b' : Backend σ}

include halive

theorem run_of_alive (payload : Bytes) : b.run Command.all 15 1 payload =
    ((Answer.setRequest.perform payload b).1.map .plain,
      (Answer.setRequest.perform payload b).2) := by
  have hcarries : b.carries? Command.all 15 1 = some .setRequest := by
    rw [carries?, find?_setRequest]
    exact Option.filter_eq_some_iff.mpr ⟨rfl, by simp [halive]⟩
  rw [run_of_carries hcarries, Command.answer]
  simp only [Action.perform, Attempt.run_map]

theorem dispatch_of_performed {body : Bytes}
    (h : Answer.setRequest.perform payload b = (.ok body, b')) :
    b.dispatch Command.all 15 1 payload = (.ok (.ok body), b') := by
  rw [dispatch, run_of_alive halive, h]
  simp

/-- A payload that is to blame is answered with a code that says so. -/
theorem dispatch_of_blamed {e : CommandError} (he : e.Blames)
    (h : Answer.setRequest.perform payload b = (.error e, b')) :
    ∃ code ≠ .none, b.dispatch Command.all 15 1 payload = (.ok (.failed code), b') := by
  obtain ⟨code, hcode, hne⟩ := he.replyCode
  refine ⟨code, hne, ?_⟩
  rw [dispatch, run_of_alive halive, h]
  simp [hcode]

end

/-- **The command accepts what it can carry out, and otherwise leaves the backend alone.** -/
theorem dispatch_setRequest_cases (payload : Bytes) (b : Backend σ) :
    (∃ q ms rest, payload = q.bytes ++ rest ∧ WireRequest.StandsFor b.registry q ms ∧
      b.dispatch Command.all 15 1 payload = (.ok (.ok (Bytes.ofInt32 b.requests.nextId)),
        { b with requests := (b.requests.set q.kind q.policy ms).2 })) ∨
      ∃ code ≠ .none, b.dispatch Command.all 15 1 payload = (.ok (.failed code), b) := by
  by_cases halive : Target.isAlive b.target
  · obtain ⟨q, ms, rest, rfl, hq⟩ | ⟨e, he, hperform⟩ := Answer.perform_setRequest_cases payload b
    · have hperform := Answer.perform_setRequest hq rest
      exact Or.inl ⟨q, ms, rest, rfl, hq, dispatch_of_performed halive hperform⟩
    · exact Or.inr (dispatch_of_blamed halive he hperform)
  · exact Or.inr ⟨.vmDead, by decide, dispatch_of_dead halive payload⟩

/-! ## All or nothing -/

/-- What becomes of a command to set a request, and what it answers. -/
structure AllOrNothing (b : Backend σ) (payload : Bytes) (told : Except String Reply × Backend σ) :
    Prop where
  /-- An error of any kind leaves everything as it was. -/
  refused : (∀ body, told.1 ≠ .ok (.ok body)) → told.2 = b
  /-- What is answered is what the payload spells: it was installed under the id in the answer. -/
  answered : ∀ body, told.1 = .ok (.ok body) → ∃ q ms rest id, payload = q.bytes ++ rest ∧
    q.StandsFor b.registry ms ∧ body = Bytes.ofInt32 id ∧ b.Installs q ms id told.2
  /-- Every request that is spelled is accepted. -/
  accepted : Target.isAlive b.target → ∀ q ms rest, payload = q.bytes ++ rest →
    q.StandsFor b.registry ms →
      ∃ id, told.1 = .ok (.ok (Bytes.ofInt32 id)) ∧ b.Installs q ms id told.2
  /-- A dead target refuses the command, which would accept the request even then. -/
  dead : ¬ Target.isAlive b.target → told.1 = .ok (.failed .vmDead)
  performed : ∀ q ms rest, payload = q.bytes ++ rest → q.StandsFor b.registry ms →
    ∃ id b', Answer.setRequest.perform payload b = (.ok (Bytes.ofInt32 id), b') ∧
      b.Installs q ms id b'
  /-- Each filter takes just its own bytes, wherever it stands. -/
  taken : ∀ w m, WireModifier.StandsFor b.registry w m → ∀ p rest,
    (Modifier.read b.registry).run ⟨p, w.bytes ++ rest⟩ = (.ok m, ⟨p + w.bytes.length, rest⟩)

/-- **A request is set as a whole or not at all,** as long as the ids did not come round. -/
theorem allOrNothing_of_few (hcomes : b.requests.ComesOf calls)
    (hfew : RequestTable.sets calls < 2 ^ 31 - 1) (payload : Bytes) :
    b.AllOrNothing payload (b.dispatch Command.all 15 1 payload) := by
  have hinstalls := installs_of_few hcomes hfew
  constructor
  case refused =>
    intro hrefused
    obtain ⟨q, ms, rest, -, -, hdispatch⟩ | ⟨code, -, hdispatch⟩ :=
      dispatch_setRequest_cases payload b
    · rw [hdispatch] at hrefused
      exact absurd rfl (hrefused _)
    · rw [hdispatch]
  case answered =>
    intro body hbody
    obtain ⟨q, ms, rest, hpayload, hq, hdispatch⟩ | ⟨code, hcode, hdispatch⟩ :=
      dispatch_setRequest_cases payload b
    · rw [hdispatch] at hbody ⊢
      cases hbody
      exact ⟨q, ms, rest, _, hpayload, hq, rfl, hinstalls q ms⟩
    · rw [hdispatch] at hbody
      cases hbody
      exact absurd rfl hcode
  case accepted =>
    rintro halive q ms rest rfl hq
    rw [dispatch_of_performed halive (Answer.perform_setRequest hq rest)]
    exact ⟨_, rfl, hinstalls q ms⟩
  case dead =>
    intro hdead
    rw [dispatch_of_dead hdead]
  case performed =>
    rintro q ms rest rfl hq
    exact ⟨_, _, Answer.perform_setRequest hq rest, hinstalls q ms⟩
  case taken =>
    intro w m hw p rest
    exact (WireModifier.parses_read b.registry).run ⟨w, rfl, hw⟩ p rest

/-- A debugger learns the ids of both threads, and asks for breakpoints. -/
def askOnce : List (Happening InMemory) :=
  [.connected, .command Command.all 1 4 [], .command Command.all 15 1 [2, 2, 0, 0, 0, 0]]

/-- The first breakpoint that the thread with the id 1 meets in some classes. -/
def firstMet : WireRequest :=
  ⟨.breakpoint, .all, [.count 1, .threadOnly ⟨1⟩, .classMatch "com.example.*"]⟩

/-- The same, but the id names no thread. -/
def strayMet : WireRequest := ⟨.breakpoint, .all, [.count 1, .threadOnly ⟨4242⟩]⟩

/-- The first is installed under the id 2.  Of the second nothing is. -/
theorem installed_second : ∃ b, Backend.new {} twoThreads = .ok b ∧
    ((b.after askOnce).dispatch Command.all 15 1 firstMet.bytes).1 = .ok (.ok [0, 0, 0, 2]) ∧
    (∃ id, (b.after askOnce).Installs firstMet
      [.count 1, .threadOnly ⟨5⟩, .classMatch (.startsWith "com.example.")] id
      ((b.after askOnce).dispatch Command.all 15 1 firstMet.bytes).2) ∧
    ((b.after askOnce).dispatch Command.all 15 1 strayMet.bytes).1 = .ok (.failed .invalidThread) ∧
    ((b.after askOnce).dispatch Command.all 15 1 strayMet.bytes).2 = b.after askOnce := by
  have hnew : Backend.new {} twoThreads = .ok _ := rfl
  refine ⟨_, hnew, by decide +kernel, ?_⟩
  have horderly : ∀ h ∈ askOnce, h.Orderly := by simp [askOnce, Happening.Orderly]
  obtain ⟨calls, hcalls, hcomes⟩ :=
    comesOf_after horderly (requests_of_new hnew ▸ RequestTable.comesOf_empty)
  have hfew : RequestTable.sets (calls ++ []) < 2 ^ 31 - 1 := by
    rw [List.append_nil]
    exact Nat.lt_of_le_of_lt hcalls (by decide)
  constructor
  · obtain ⟨id, -, hinstalls⟩ := (allOrNothing_of_few hcomes hfew firstMet.bytes).accepted
      (by decide +kernel) firstMet _ [] (List.append_nil _).symm
      ⟨by decide, .cons ⟨by decide, rfl⟩ (.cons ⟨⟨5⟩, by decide +kernel, rfl⟩
        (.cons ⟨by decide, rfl⟩ .nil))⟩
    exact ⟨id, hinstalls⟩
  · refine (and_iff_left_of_imp fun hstray => ?_).mpr (by decide +kernel)
    refine (allOrNothing_of_few hcomes hfew strayMet.bytes).refused fun body hbody => ?_
    rw [hstray] at hbody
    cases hbody

end Backend
end DebugWire

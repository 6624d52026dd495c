/-
A device's account of its transfers.

Requests are counted where they run and wait, transfers and bytes where a retirement is told, and no path of the device
touches both. The two agree because every command deals with the books in one of four ways, and counts what it retires.

- `Moment.Bookkeeping`: a command leaves the books alone, hands in a request, answers an interrupt, or drops everything;
- `Moment.balance`: what comes in with a command has gone out or is there afterwards;
- `Moment.neutral_of_answer`: a command whose answer tells of no request moves none;
- `Statistics.Counts`, `Moment.counts_after`: the counters of a direction go up by what is reported in it;
- `accounts_balance`: the account of a whole run.
-/
import Mathlib.Algebra.GroupWithZero.Nat
import BoardDriver.Proofs.Load
import BoardDriver.Proofs.SessionRoster

namespace BoardDriver

/-! ## Counters -/

def doneIn (direction : Direction) (done : List Retired) : List Retired :=
  done.filter fun r => r.descriptor.direction = direction

def bytesIn (direction : Direction) (done : List Retired) : Nat :=
  ((doneIn direction done).map fun r => r.descriptor.length.toNat).sum

@[simp] theorem doneIn_append (direction : Direction) (done more : List Retired) :
    doneIn direction (done ++ more) = doneIn direction done ++ doneIn direction more :=
  List.filter_append ..

@[simp] theorem bytesIn_append (direction : Direction) (done more : List Retired) :
    bytesIn direction (done ++ more) = bytesIn direction done + bytesIn direction more := by
  rw [bytesIn, doneIn_append, List.map_append, List.sum_append]
  rfl

namespace Statistics

variable {s t u : Statistics} {done more : List Retired}

/-- `t` is `s` with these transfers counted, each in its own direction; the counters have 64 bits -/
structure Counts (s : Statistics) (done : List Retired) (t : Statistics) : Prop where
  buffers : ∀ direction, (t.counters direction).buffers =
    (s.counters direction).buffers + UInt64.ofNat (doneIn direction done).length
  bytes : ∀ direction, (t.counters direction).bytes =
    (s.counters direction).bytes + UInt64.ofNat (bytesIn direction done)

theorem Counts.of_counters_eq (h : ∀ direction, t.counters direction = s.counters direction) : s.Counts [] t where
  buffers direction := by
    rw [h]
    exact (UInt64.add_zero _).symm
  bytes direction := by
    rw [h]
    exact (UInt64.add_zero _).symm

theorem Counts.refl (s : Statistics) : s.Counts [] s := .of_counters_eq fun _ => rfl

theorem Counts.trans (h : s.Counts done t) (h' : t.Counts more u) : s.Counts (done ++ more) u where
  buffers direction := by
    rw [h'.buffers, h.buffers, doneIn_append, List.length_append, UInt64.ofNat_add, UInt64.add_assoc]
  bytes direction := by
    rw [h'.bytes, h.bytes, bytesIn_append, UInt64.ofNat_add, UInt64.add_assoc]

/-- from nothing, the counters are the numbers of transfers and of bytes, wrapped -/
theorem Counts.toNat (h : Counts {} done t) (direction : Direction) :
    (t.counters direction).buffers.toNat = (doneIn direction done).length % 2 ^ 64 ∧
      (t.counters direction).bytes.toNat = bytesIn direction done % 2 ^ 64 := by
  have hzero : (({} : Statistics).counters direction).buffers = 0 ∧
      (({} : Statistics).counters direction).bytes = 0 := by
    cases direction <;> exact ⟨rfl, rfl⟩
  rw [h.buffers, h.bytes, hzero.1, hzero.2, UInt64.zero_add, UInt64.zero_add]
  exact ⟨UInt64.toNat_ofNat' .., UInt64.toNat_ofNat' ..⟩

/-- one transfer -/
theorem CountsOne.counts {r : Retired} (h : s.CountsOne r.descriptor.direction r.descriptor.length t) :
    s.Counts [r] t := by
  have hone : ∀ direction, (t.counters direction).buffers =
        (s.counters direction).buffers + UInt64.ofNat (doneIn direction [r]).length ∧
      (t.counters direction).bytes = (s.counters direction).bytes + UInt64.ofNat (bytesIn direction [r]) := by
    intro direction
    by_cases hdirection : r.descriptor.direction = direction
    · subst hdirection
      have hdone : doneIn r.descriptor.direction [r] = [r] := List.filter_cons_of_pos (decide_eq_true rfl)
      rw [h.buffers, h.bytes, bytesIn, hdone]
      simp
    · have hdone : doneIn direction [r] = [] := List.filter_cons_of_neg (by simpa using hdirection)
      rw [h.others direction (Ne.symm hdirection), bytesIn, hdone]
      simp
  exact ⟨fun direction => (hone direction).1, fun direction => (hone direction).2⟩

end Statistics

/-- an answer that tells of requests: of one taken on, of one that is done, or of those dropped -/
def Reply.tellsOfRequests : Reply → Bool
  | .submitted .. | .dropped _ | .outcome (.dmaDone _) => true
  | _ => false

namespace Device

variable {ε : Type}

theorem tellsOfRequests_reply {α : Type} {f : α → Reply} (hf : ∀ a, (f a).tellsOfRequests = false)
    (o : Except Error α × Device ε) {answer : Reply} (h : (reply f o).1 = .ok answer) :
    answer.tellsOfRequests = false := by
  obtain ⟨o, d⟩ := o
  cases o with
  | error e => cases h
  | ok a =>
    cases h
    exact hf a

variable [TransferEngine ε]

/-- telling the engine a start counts nothing, whether it fails or not -/
theorem statistics_launch (start : Start) (d : Device ε) : (launch start d).state.statistics = d.statistics := by
  obtain ⟨engine, table, registry, h⟩ := launch_cases start d
  rw [h]

theorem counts_replayStep (s : DeviceStep) (d : Device ε) :
    d.statistics.Counts (s.answer?.bind done?).toList (d.replayStep s).statistics := by
  cases s with
  | started start result => exact .of_counters_eq fun direction => by rw [replayStep, statistics_launch]
  | raised irq answer =>
    cases answer with
    | error e => exact .refl _
    | ok outcome =>
      cases outcome with
      | dmaDone r => exact (Statistics.countsOne_recordTransfer _ _ _ _).counts
      | forwarded source => exact .refl _
      | spurious => exact .refl _

theorem counts_replay (steps : List DeviceStep) (d : Device ε) :
    d.statistics.Counts ((steps.filterMap EngineStep.answer?).filterMap done?) (d.replay steps).statistics := by
  induction steps generalizing d with
  | nil => exact .refl _
  | cons s steps ih =>
    have hall := (counts_replayStep s d).trans (ih (d.replayStep s))
    have hfirst : ((s :: steps).filterMap EngineStep.answer?).filterMap done? =
        (s.answer?.bind done?).toList ++ (steps.filterMap EngineStep.answer?).filterMap done? := by
      rw [List.filterMap_filterMap, List.filterMap_filterMap, List.filterMap_cons]
      cases s.answer?.bind done? <;> rfl
    rw [hfirst]
    exact hall

/-- a request that drives no engine counts no transfer -/
theorem counters_serve (s : Session) {request : SessionRequest} (h : request.drivesEngine = false) (d : Device ε)
    (direction : Direction) :
    (serve s request d).2.1.statistics.counters direction = d.statistics.counters direction := by
  cases request with
  | submit | simulate => cases h
  | setEventMask mask =>
    simp only [serve, setEventMask, modifySubscriber]
    split <;> rfl
  | setForwardingMask mask =>
    simp only [serve, setForwardingMask, modifySubscriber]
    split <;> rfl
  | dequeue =>
    simp only [serve, dequeueEvent]
    split <;> rfl
  | drain =>
    simp only [serve, drainEvents]
    split <;> rfl
  | setupMemory size =>
    simp only [serve, reply, setupMemory]
    split <;> rfl
  | transferMemory direction offset buffer =>
    simp only [serve, reply, transferMemory]
    split <;> rfl
  | reset =>
    simp only [serve, reply, resetTransfers]
    split <;> rfl
  | _ => rfl

/-- a request that may not change the books tells of no requests -/
theorem tellsOfRequests_serve (s : Session) {request : SessionRequest} (h : request.isTransfer = false) (d : Device ε)
    {answer : Reply} (hanswer : (serve s request d).1 = .ok answer) : answer.tellsOfRequests = false := by
  cases request with
  | submit | simulate | reset => cases h
  | read bar offset => exact tellsOfRequests_reply (fun _ => rfl) _ hanswer
  | readRange bar offset count => exact tellsOfRequests_reply (fun _ => rfl) _ hanswer
  | write bar offset value => exact tellsOfRequests_reply (fun _ => rfl) _ hanswer
  | modify bar offset clear set => exact tellsOfRequests_reply (fun _ => rfl) _ hanswer
  | setMode bar offset mode => exact tellsOfRequests_reply (fun _ => rfl) _ hanswer
  | setupMemory size => exact tellsOfRequests_reply (fun _ => rfl) _ hanswer
  | transferMemory direction offset buffer => exact tellsOfRequests_reply (fun _ => rfl) _ hanswer
  | _ =>
    cases hanswer
    rfl

/-- an interrupt that retires nothing leaves the books alone and has the engine do nothing -/
theorem interrupt_of_not_done {irq : UInt32} {d : Device ε} (h : done? (interrupt irq d).1 = none) :
    (interrupt irq d).2.1.ledger = d.ledger ∧ (interrupt irq d).2.2 = {} := by
  rw [interrupt_answer] at h
  rcases answerTo_cases irq d with ⟨e, hroute, -⟩ | ⟨v, name, hroute, -⟩ | ⟨c, e, hroute, hretire, -⟩ |
    ⟨c, p, -, -, hanswer⟩
  · simp only [interrupt_eq, interruptWith, hroute, and_self]
  · simp only [interrupt_eq, interruptWith, hroute, tell, and_self]
  · simp only [interrupt_eq, interruptWith, hroute, retireWith, hretire, and_self]
  · rw [hanswer] at h
    cases h

namespace Moment

variable {m : Moment ε}

/-! ## Requests -/

def accepted (m : Moment ε) : Nat :=
  match m.answer with
  | .ok (.submitted ..) => 1
  | _ => 0

def dropped (m : Moment ε) : Nat :=
  match m.answer with
  | .ok (.dropped count) => count
  | _ => 0

/-- the command is answered with nothing about requests -/
def Silent (m : Moment ε) : Prop := ∀ answer, m.answer = .ok answer → answer.tellsOfRequests = false

theorem Silent.of_answer (answer : Reply) (ha : m.answer = .ok answer) (h : answer.tellsOfRequests = false) :
    m.Silent := by
  intro other hother
  cases ha.symm.trans hother
  exact h

theorem Silent.of_error {e : Error} (ha : m.answer = .error e) : m.Silent := by
  intro other hother
  cases ha.symm.trans hother

theorem Silent.accepted (h : m.Silent) : m.accepted = 0 := by
  unfold Moment.accepted
  split
  · rename_i hanswer
    cases h _ hanswer
  · rfl

theorem Silent.dropped (h : m.Silent) : m.dropped = 0 := by
  unfold Moment.dropped
  split
  · rename_i hanswer
    cases h _ hanswer
  · rfl

/-- the ways in which a command deals with the books -/
inductive Bookkeeping (m : Moment ε) : Prop where
  /-- it leaves them alone, and tells of nothing -/
  | idle (answer : m.Silent) (ledger : m.after.ledger = m.before.ledger) (retired : m.retired = [])
  /-- it hands in a request; the start may have others retired -/
  | submission (ticket : Ticket) (handle : Option CompletionHandle) (answer : m.answer = .ok (.submitted ticket handle))
      (r : Request) (load : m.after.ledger.scheduler.load + m.retired.length =
        (m.before.ledger.scheduler.submit r).2.load)
  /-- it is answered as an interrupt is -/
  | interrupt (irq : UInt32) (d : Device ε) (books : d.ledger = m.before.ledger)
      (answer : m.answer = (d.interrupt irq).1.map Reply.outcome) (after : m.after = (d.interrupt irq).2.1)
      (retired : m.retired = ((d.interrupt irq).2.2.answers ++ [(d.interrupt irq).1]).filterMap done?)
  /-- it drops every request -/
  | reset (answer : m.answer = .ok (.dropped m.before.ledger.scheduler.load))
      (ledger : m.after.ledger = m.before.ledger.reset.2) (retired : m.retired = [])

namespace Bookkeeping

/-- a command that neither touches the books nor drives the engine -/
theorem of_quiet (hanswer : m.Silent) (hl : m.after.ledger = m.before.ledger) (ha : m.activity = {})
    (hraised : m.raised? = none) : m.Bookkeeping := by
  refine .idle hanswer hl ?_
  rw [retired, answers_of_raised?_eq_none m hraised, ha]
  rfl

theorem of_no_session {number : Nat} {request : SessionRequest} (hm : m.command = .session number request)
    (hs : m.before.session? number = none) : m.Bookkeeping := by
  obtain ⟨d, _⟩ := m
  cases hm
  have hstep : step (.session number request) d = (.ok .noSession, d, {}) := by simp only [step, hs]
  refine of_quiet (.of_answer _ (congrArg (·.1) hstep) rfl) (congrArg (·.2.1.ledger) hstep) (congrArg (·.2.2) hstep) ?_
  cases request <;> simp [raised?, hs]

theorem of_submit {number : Nat} {direction : Direction} {system device length : UInt32} {watched : Bool} {s : Session}
    (hm : m.command = .session number (.submit direction system device length watched))
    (hs : m.before.session? number = some s) : m.Bookkeeping := by
  obtain ⟨d, _⟩ := m
  cases hm
  by_cases hlength : length = 0
  · have hstep : step (.session number (.submit direction system device length watched)) d =
        (.error (.invalidArgument .emptyTransfer), d, {}) := by
      simp only [step, hs, serve, replyWith, submitTransfer, if_pos hlength, Except.map]
    exact of_quiet (.of_error (congrArg (·.1) hstep)) (congrArg (·.2.1.ledger) hstep) (congrArg (·.2.2) hstep) rfl
  · obtain ⟨made, hmade⟩ : ∃ made, d.ledger.newRequest (.between direction system device length) s.id watched = made :=
      ⟨_, rfl⟩
    have hstep : step (.session number (.submit direction system device length watched)) d =
        (.ok (.submitted made.1.ticket made.2.1), submit made.1 { d.control with ledger := made.2.2 }) := by
      simp only [step, hs, serve, replyWith, submitTransfer, if_neg hlength, ← hmade]
      rfl
    obtain ⟨_, -, hsettles⟩ := submit_settles made.1 { d.control with ledger := made.2.2 }
    have hload := hsettles.load
    have hscheduler : made.2.2.scheduler = d.ledger.scheduler := by rw [← hmade, TransferLedger.scheduler_newRequest]
    refine .submission _ _ (congrArg (·.1) hstep) made.1 ?_
    rw [retired, answers_of_raised?_eq_none _ rfl, after, activity, hstep, ← hscheduler]
    exact hload

theorem of_simulate (source : UInt32) {d : Device ε} (books : d.ledger = m.before.ledger)
    (hstep : m.before.step m.command = replyWith .outcome (d.simulate source))
    (hraised : m.raised?.toList.map (fun irq => (m.before.interrupt irq).1) =
      (d.simulated? source).toList.map fun irq => (d.interrupt irq).1) : m.Bookkeeping := by
  have hretired : m.retired = (m.activity.answers ++
      (d.simulated? source).toList.map fun irq => (d.interrupt irq).1).filterMap done? := by
    rw [retired, answers_eq, hraised]
  unfold simulate simulated? at *
  cases hirq : (do d.requireSimulator "simulate_irq"; d.router.irqForSource source : Except Error UInt32) with
  | error e =>
    rw [hirq] at hstep hretired
    refine .idle (.of_error (congrArg (·.1) hstep)) ((congrArg (·.2.1.ledger) hstep).trans books) ?_
    rw [hretired, activity, hstep]
    rfl
  | ok irq =>
    rw [hirq] at hstep hretired
    refine .interrupt irq d books (congrArg (·.1) hstep) (congrArg (·.2.1) hstep) ?_
    rw [hretired, activity, hstep]
    rfl

theorem of_reset {number : Nat} {s : Session} (hm : m.command = .session number .reset)
    (hs : m.before.session? number = some s) : m.Bookkeeping := by
  obtain ⟨d, _⟩ := m
  cases hm
  cases hsimulator : d.requireSimulator "reset_dma" with
  | error e =>
    have hstep : step (.session number .reset) d = (.error e, d, {}) := by
      simp only [step, hs, serve, reply, resetTransfers, hsimulator, Except.map]
    exact of_quiet (.of_error (congrArg (·.1) hstep)) (congrArg (·.2.1.ledger) hstep) (congrArg (·.2.2) hstep) rfl
  | ok =>
    have hstep : step (.session number .reset) d =
        (.ok (.dropped d.ledger.scheduler.load), { d.control with ledger := d.ledger.reset.2 }, {}) := by
      simp only [step, hs, serve, reply, resetTransfers, hsimulator, Except.map]
      rfl
    refine .reset (congrArg (·.1) hstep) (congrArg (·.2.1.ledger) hstep) ?_
    rw [retired, answers_of_raised?_eq_none _ rfl, activity, hstep]
    rfl

theorem of_session {number : Nat} {request : SessionRequest} {s : Session} (hm : m.command = .session number request)
    (hs : m.before.session? number = some s) : m.Bookkeeping := by
  cases ht : request.isTransfer with
  | false =>
    obtain ⟨d, _⟩ := m
    cases hm
    have hstep : step (.session number request) d = serve s request d := by simp only [step, hs]
    obtain ⟨hledger, hactivity⟩ := serve_of_not_isTransfer s ht d
    refine of_quiet ?_ ((congrArg (·.2.1.ledger) hstep).trans hledger) ((congrArg (·.2.2) hstep).trans hactivity) ?_
    · intro answer hanswer
      exact tellsOfRequests_serve s ht d ((congrArg (·.1) hstep).symm.trans hanswer)
    · cases request <;> first | rfl | cases ht
  | true =>
    cases request with
    | submit direction system device length watched => exact of_submit hm hs
    | reset => exact of_reset hm hs
    | simulate source =>
      refine of_simulate source (d := m.before.control) rfl ?_ ?_
      · rw [hm]
        simp only [step, hs, serve, simulateFor]
      · simp only [raised?, hm, hs, Option.bind_some, interrupt_control]
        rfl
    | _ => cases ht

end Bookkeeping

/-- **Every command deals with the books in one of these ways.** -/
theorem bookkeeping (m : Moment ε) : m.Bookkeeping := by
  obtain ⟨d, c⟩ := m
  cases c with
  | interrupt irq =>
    refine .interrupt irq d rfl rfl rfl ?_
    rw [retired, answers_eq]
    rfl
  | simulate source => exact .of_simulate source rfl rfl rfl
  | session number request =>
    cases hs : d.session? number with
    | none => exact .of_no_session rfl hs
    | some s => exact .of_session rfl hs
  | openSession => exact .of_quiet (.of_answer _ rfl rfl) rfl rfl rfl
  | setTracking on => exact .of_quiet (.of_answer _ rfl rfl) rfl rfl rfl
  | hold => exact .of_quiet (.of_answer _ rfl rfl) rfl rfl rfl
  | release => exact .of_quiet (.of_answer _ rfl rfl) rfl rfl rfl

/-- **What comes in has gone out or is there.** What a command had accepted is reported done, dropped, or held by the
device afterwards. -/
theorem balance (h : m.before.ledger.scheduler.Sound) :
    m.after.ledger.scheduler.load + m.retired.length + m.dropped = m.before.ledger.scheduler.load + m.accepted := by
  cases m.bookkeeping with
  | idle hsilent hledger hretired => rw [hsilent.accepted, hsilent.dropped, hledger, hretired, List.length_nil]
  | submission ticket handle hanswer r hload =>
    have haccepted : m.accepted = 1 := by simp only [accepted, hanswer]
    have hdropped : m.dropped = 0 := by simp only [dropped, hanswer]
    rw [haccepted, hdropped, Nat.add_zero, hload, Scheduler.load_submit h]
  | interrupt irq d books hanswer hafter hretired =>
    have hsettles := (interrupt_settles _ irq d (Nat.le_refl _)).load
    have hlength : m.retired.length =
        (((d.interrupt irq).1 :: (d.interrupt irq).2.2.answers).filterMap done?).length := by
      rw [hretired]
      exact ((List.perm_append_singleton _ _).filterMap done?).length_eq
    have hsilent : m.accepted = 0 ∧ m.dropped = 0 := by
      simp only [accepted, dropped, hanswer]
      cases (d.interrupt irq).1 <;> exact ⟨rfl, rfl⟩
    rw [hsilent.1, hsilent.2, hafter, hlength, ← books]
    exact hsettles
  | reset hanswer hledger hretired =>
    have haccepted : m.accepted = 0 := by simp only [accepted, hanswer]
    have hdropped : m.dropped = m.before.ledger.scheduler.load := by simp only [dropped, hanswer]
    have hempty : m.before.ledger.reset.2.scheduler.load = 0 := Scheduler.load_reset _
    rw [haccepted, hdropped, hledger, hempty, hretired, List.length_nil, Nat.zero_add, Nat.add_zero]

/-! ## What is counted -/

/-- a command counts no transfer of itself -/
theorem counts_own (m : Moment ε) : m.before.statistics.Counts [] m.own.statistics := by
  rcases m.own_cases with h | h | ⟨_, s, request, -, -, hengine, h⟩ | ⟨-, h⟩ | ⟨on, h⟩ | h | h
  · rw [h]
    exact .refl _
  · rw [h]
    exact .of_counters_eq fun _ => rfl
  · rw [h]
    exact .of_counters_eq (counters_serve s hengine m.before)
  all_goals
    rw [h]
    exact .of_counters_eq fun _ => rfl

/-- **Every command counts what it retires**, each transfer in its own direction. -/
theorem counts_after (m : Moment ε) : m.before.statistics.Counts m.retired m.after.statistics := by
  have hreplays := m.replays
  rw [Replays] at hreplays
  rw [hreplays]
  exact m.counts_own.trans (counts_replay m.steps m.own)

/-- the command moves no request and counts no transfer -/
structure Neutral (m : Moment ε) : Prop where
  accepted : m.accepted = 0
  retired : m.retired = []
  dropped : m.dropped = 0
  ledger : m.after.ledger = m.before.ledger
  counters : ∀ direction,
    (m.after.statistics.counters direction).buffers = (m.before.statistics.counters direction).buffers ∧
      (m.after.statistics.counters direction).bytes = (m.before.statistics.counters direction).bytes

/-- **A command that is answered with nothing about requests is neutral.** -/
theorem Silent.neutral (h : m.Silent) : m.Neutral := by
  have hbooks : m.after.ledger = m.before.ledger ∧ m.retired = [] := by
    cases m.bookkeeping with
    | idle _ hledger hretired => exact ⟨hledger, hretired⟩
    | submission ticket handle hanswer r hload => cases h _ hanswer
    | interrupt irq d books hanswer hafter hretired =>
      have hnone : done? (d.interrupt irq).1 = none := by
        cases hirq : (d.interrupt irq).1 with
        | error e => rfl
        | ok outcome =>
          have hsilent := h (.outcome outcome) (by rw [hanswer, hirq]; rfl)
          cases outcome with
          | dmaDone r => cases hsilent
          | _ => rfl
      obtain ⟨hledger, hactivity⟩ := interrupt_of_not_done hnone
      refine ⟨(congrArg Device.ledger hafter).trans (hledger.trans books), ?_⟩
      rw [hretired, hactivity]
      exact List.filterMap_eq_nil_iff.2 fun answer hmem => List.mem_singleton.1 hmem ▸ hnone
    | reset hanswer _ _ => cases h _ hanswer
  have hcounts := m.counts_after
  rw [hbooks.2] at hcounts
  refine ⟨h.accepted, hbooks.2, h.dropped, hbooks.1, fun direction => ⟨?_, ?_⟩⟩
  · exact (hcounts.buffers direction).trans (UInt64.add_zero _)
  · exact (hcounts.bytes direction).trans (UInt64.add_zero _)

/-- a submission of no bytes is refused, by an open session and by any other -/
theorem silent_of_empty {number : Nat} {direction : Direction} {system device : UInt32} {watched : Bool}
    (hm : m.command = .session number (.submit direction system device 0 watched)) : m.Silent := by
  cases hs : m.before.session? number with
  | none => exact .of_answer .noSession (by simp only [answer, hm, step, hs]) rfl
  | some s =>
    exact .of_error (e := .invalidArgument .emptyTransfer)
      (by simp only [answer, hm, step, hs, serve, replyWith, submitTransfer, if_true, Except.map])

theorem silent_of_close {number : Nat} (hm : m.command = .session number .close) : m.Silent := by
  cases hs : m.before.session? number with
  | none => exact .of_answer .noSession (by simp only [answer, hm, step, hs]) rfl
  | some s => exact .of_answer .done (by simp only [answer, hm, step, hs, serve]) rfl

end Moment

/-! ## Runs -/

theorem counts_run (d : Device ε) (commands : List Command) :
    d.statistics.Counts ((d.moments commands).flatMap Moment.retired) (d.run commands).1.statistics := by
  induction commands using List.reverseRecOn with
  | nil => exact .refl _
  | append_singleton commands c ih =>
    rw [run_snoc, moments_snoc, List.flatMap_append, List.flatMap_singleton]
    exact ih.trans (Moment.counts_after ⟨(d.run commands).1, c⟩)

/-- what was accepted in a run has been reported done, dropped, or is held by the device -/
theorem balance_run {config : Config} {d : Device ε} (h : d.Holds config (Wired config.irqBase))
    (commands : List Command) :
    (d.run commands).1.ledger.scheduler.load + ((d.moments commands).flatMap Moment.retired).length +
        ((d.moments commands).map Moment.dropped).sum =
      d.ledger.scheduler.load + ((d.moments commands).map Moment.accepted).sum := by
  induction commands using List.reverseRecOn with
  | nil => rfl
  | append_singleton commands c ih =>
    have hwired := run_holds (wired_invariant config.mode config.irqBase) commands (fun _ => Wired.reset) d h
    have hbalance := Moment.balance (m := ⟨(d.run commands).1, c⟩) hwired.2.sound
    have hafter : (d.run (commands ++ [c])).1 = (⟨(d.run commands).1, c⟩ : Moment ε).after := run_snoc d commands c
    rw [hafter, moments_snoc]
    simp only [List.flatMap_append, List.flatMap_singleton, List.length_append, List.map_append, List.sum_append,
      List.map_singleton, List.sum_singleton]
    dsimp only at hbalance
    omega

omit [TransferEngine ε] in
/-- a device that was built holds no request and has counted nothing -/
theorem blank_of_build {files : HostFiles} {config : Config} {engine : Option ε} {d : Device ε}
    (hbuild : build files config engine = .ok d) : d.ledger.scheduler.load = 0 ∧ d.statistics = {} := by
  obtain ⟨table, bank, scheduler, dispatcher, -, -, -, hscheduler, -, rfl⟩ := build_cases hbuild
  obtain ⟨report, -, -, rfl⟩ := probeScheduler_cases hscheduler
  refine ⟨?_, rfl⟩
  have hsame := Scheduler.sameLoad_bindInterrupts config.irqBase (.fresh report.channels report.idle)
  exact hsame.load.trans (Scheduler.load_fresh _ _)

/-- waiting for a transfer leaves what submitting it leaves, whether the time is up or not -/
theorem submitAndWait_device {d : Device ε} {number : Nat} {s : Session} (hs : d.session? number = some s)
    (direction : Direction) (system device : UInt32) {length : UInt32} (hlength : length ≠ 0)
    (meanwhile : List Command) :
    (d.submitAndWait s direction system device length meanwhile).2.1 =
      (d.run (.session number (.submit direction system device length true) :: meanwhile)).1 := by
  rw [run_cons]
  simp only [submitAndWait, step, hs, serve, replyWith, submitTransfer, if_neg hlength]

/-- **A device's account of its transfers balances.** After every run of a device that was built:
- the submissions accepted are as many as the transfers reported done, the requests dropped by resets, and those in
  flight and waiting;
- the counters of reads count the transfers up that were reported done, and their bytes, modulo 2 ^ 64; those of writes
  the transfers down; and this whether or not their speed was tracked;
- submissions of no bytes, spurious interrupts, everything that is refused and closings of sessions are neutral;
- telling the engine a start changes neither the books nor the counters, whether it fails or not;
- waiting for a transfer leaves what submitting it leaves, whether the time is up or not. -/
theorem accounts_balance {files : HostFiles} {config : Config} {engine : Option ε} {d : Device ε}
    (hbuild : build files config engine = .ok d) (tickets : TicketCounter) (completions : CompletionTable)
    (elapsed : Ticket → Duration) (commands : List Command) :
    let host := d.onHost tickets completions elapsed
    let moments := host.moments commands
    let e := (host.run commands).1
    let done := moments.flatMap Moment.retired
    (moments.map Moment.accepted).sum = done.length + (moments.map Moment.dropped).sum +
      e.ledger.scheduler.inFlightCount + e.ledger.scheduler.pending.length ∧
    (e.statistics.read.buffers.toNat = (doneIn .up done).length % 2 ^ 64 ∧
      e.statistics.read.bytes.toNat = bytesIn .up done % 2 ^ 64 ∧
      e.statistics.write.buffers.toNat = (doneIn .down done).length % 2 ^ 64 ∧
      e.statistics.write.bytes.toNat = bytesIn .down done % 2 ^ 64) ∧
    (∀ m ∈ moments,
      (∃ number direction system device watched,
          m.command = .session number (.submit direction system device 0 watched)) ∨
        m.answer = .ok (.outcome .spurious) ∨ (∃ error, m.answer = .error error) ∨
        (∃ number, m.command = .session number .close) →
      m.Neutral) ∧
    (∀ (start : Start) (f : Device ε),
      (launch start f).state.ledger = f.ledger ∧ (launch start f).state.statistics = f.statistics) ∧
    ∀ number s direction system device length meanwhile, e.session? number = some s → length ≠ 0 →
      (e.submitAndWait s direction system device length meanwhile).2.1 =
        (host.run (commands ++ .session number (.submit direction system device length true) :: meanwhile)).1 := by
  intro host moments e done
  obtain ⟨hempty, huncounted⟩ := blank_of_build hbuild
  refine ⟨?balance, ?counters, ?neutral, ?starts, ?waits⟩
  case balance =>
    obtain ⟨hconfig, hwired⟩ := wired_of_build hbuild
    have hhost : host.Holds config (Wired config.irqBase) := ⟨hconfig, hwired.sound, hwired.few, hwired.bound⟩
    have hload : host.ledger.scheduler.load = 0 := hempty
    have hrun : e.ledger.scheduler.inFlightCount + e.ledger.scheduler.pending.length + done.length +
          (moments.map Moment.dropped).sum = host.ledger.scheduler.load + (moments.map Moment.accepted).sum :=
      balance_run hhost commands
    omega
  case counters =>
    have hcounts : Statistics.Counts {} done e.statistics := huncounted ▸ counts_run host commands
    obtain ⟨hreads, hread⟩ := hcounts.toNat .up
    obtain ⟨hwrites, hwritten⟩ := hcounts.toNat .down
    exact ⟨hreads, hread, hwrites, hwritten⟩
  case neutral =>
    rintro m - (⟨number, direction, system, device, watched, hm⟩ | hspurious | ⟨error, herror⟩ | ⟨number, hm⟩)
    · exact (Moment.silent_of_empty hm).neutral
    · exact (Moment.Silent.of_answer _ hspurious rfl).neutral
    · exact (Moment.Silent.of_error herror).neutral
    · exact (Moment.silent_of_close hm).neutral
  case starts => exact fun start f => ⟨ledger_launch start f, statistics_launch start f⟩
  case waits =>
    intro number s direction system device length meanwhile hs hlength
    rw [run_append]
    exact submitAndWait_device hs direction system device hlength meanwhile

/-- two sessions on a board with one channel: a transfer each, the second done after its session has closed; a
submission of no bytes, a spurious interrupt and one of no vector; two transfers dropped, and one more started -/
def closedWhileBusy : List Command :=
  [.openSession, .openSession, .setTracking true, .session 0 (.submit .up 0x1000 0x2000 64 false),
   .session 0 (.submit .up 0 0 0 true), .session 1 (.submit .down 0x3000 0x4000 128 false), .interrupt 1,
   .setTracking false, .session 1 .close, .interrupt 1, .interrupt 1, .interrupt 99,
   .session 0 (.submit .up 0 0 16 false), .session 0 (.submit .up 0 0 16 false), .session 0 .reset,
   .session 0 (.submit .down 0 0 32 false)]

/-- five transfers accepted, one up and one down done, two dropped, one left; and waiting for a sixth is in vain -/
theorem accounts_balance_closedWhileBusy :
    let host := simulatorBoard.onHost {} {} fun _ => ⟨0⟩
    let e := (host.run closedWhileBusy).1
    (e.ledger.scheduler.inFlightCount + e.ledger.scheduler.pending.length = 1 ∧
      e.statistics.read.buffers.toNat = 1 ∧ e.statistics.read.bytes.toNat = 64 ∧
      e.statistics.write.buffers.toNat = 1 ∧ e.statistics.write.bytes.toNat = 128) ∧
    ∃ s m, e.session? 0 = some s ∧ m ∈ host.moments closedWhileBusy ∧ m.command = .session 1 .close ∧ m.Neutral ∧
      (e.submitAndWait s .up 0 0 8 [.interrupt 99]).1 = .error (.timeout 1000) ∧
      (e.submitAndWait s .up 0 0 8 [.interrupt 99]).2.1 =
        (host.run (closedWhileBusy ++ [.session 0 (.submit .up 0 0 8 true), .interrupt 99])).1 := by
  intro host e
  obtain ⟨hbalance, ⟨hreads, hread, hwrites, hwritten⟩, hneutral, -, hwaits⟩ :=
    accounts_balance build_simulatorBoard {} {} (fun _ => ⟨0⟩) closedWhileBusy
  have haccepted : ((host.moments closedWhileBusy).map Moment.accepted).sum = 5 := by decide +kernel
  have hdropped : ((host.moments closedWhileBusy).map Moment.dropped).sum = 2 := by decide +kernel
  have hdone : ((host.moments closedWhileBusy).flatMap Moment.retired).length = 2 := by decide +kernel
  have hup : (doneIn .up ((host.moments closedWhileBusy).flatMap Moment.retired)).length = 1 ∧
      bytesIn .up ((host.moments closedWhileBusy).flatMap Moment.retired) = 64 := by decide +kernel
  have hdown : (doneIn .down ((host.moments closedWhileBusy).flatMap Moment.retired)).length = 1 ∧
      bytesIn .down ((host.moments closedWhileBusy).flatMap Moment.retired) = 128 := by decide +kernel
  have hclose : (host.moments closedWhileBusy).any (fun m => m.command = .session 1 .close) = true := by decide +kernel
  have hwait : (e.session? 0).map (fun s => (e.submitAndWait s .up 0 0 8 [.interrupt 99]).1) =
      some (.error (.timeout 1000)) := by decide +kernel
  obtain ⟨m, hm, hclosed⟩ := List.any_eq_true.1 hclose
  obtain ⟨s, hs, htimeout⟩ := Option.map_eq_some_iff.1 hwait
  simp only [e, host] at hs hm ⊢
  rw [haccepted, hdropped, hdone] at hbalance
  rw [hup.1] at hreads
  rw [hup.2] at hread
  rw [hdown.1] at hwrites
  rw [hdown.2] at hwritten
  refine ⟨⟨?_, hreads, hread, hwrites, hwritten⟩, s, m, hs, hm, of_decide_eq_true hclosed, ?_, htimeout, ?_⟩
  · omega
  · exact hneutral m hm (.inr (.inr (.inr ⟨1, of_decide_eq_true hclosed⟩)))
  · exact hwaits 0 s .up 0 0 8 [.interrupt 99] hs (by decide)

end Device
end BoardDriver

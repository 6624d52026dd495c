/-
What an engine did, told once more as a plain sequence.

An interrupt may be answered from inside the start that raised it, so what its answer does to the device lies in the
middle of another answer. The activity of an engine lists everything in the order in which it took effect. `replay` goes
through such a list and does to a device what each entry did, with nothing nested; only the books are left out, which
are settled elsewhere.

- `interruptWithin_replays`, `submit_replays`: what an interrupt or a submission leaves behind is the replay of its
  activity;
- `serve_cases`: all that a session's request does that drives no engine;
- `Moment`, `moments`: a run, command by command;
- `Moment.replays`: a command has an effect of its own, then comes the replay of what the engine did for it.
-/
import Mathlib.Data.List.Induction
import BoardDriver.Proofs.AccessGuard
import BoardDriver.Proofs.DeviceLedger

namespace BoardDriver

/-- what is known of an interrupt that has been answered -/
abbrev DeviceStep : Type := EngineStep (Except Error InterruptOutcome)

/-- a request of a session that may have the engine run -/
def SessionRequest.drivesEngine : SessionRequest → Bool
  | .submit .. | .simulate _ => true
  | _ => false

namespace Device

variable {ε : Type}

/-- the device with other books -/
def withLedger (l : TransferLedger) (d : Device ε) : Device ε := { d with ledger := l }

@[simp] theorem withLedger_withLedger (l m : TransferLedger) (d : Device ε) :
    (d.withLedger l).withLedger m = d.withLedger m := rfl

variable [TransferEngine ε]

/-- an engine given from outside is told the start; the registers are left alone -/
theorem launch_of_engine {d : Device ε} {engine : ε} (h : d.engine = some engine) (start : Start) :
    (launch start d).state = { d with
      engine := some (TransferEngine.start start engine).state
      registry := d.registry.publishAll (TransferEngine.start start engine).events } := by
  simp only [launch, h]
  rfl

/-- the board's own engine writes the registers -/
theorem launch_of_board {d : Device ε} (h : d.engine = none) (start : Start) :
    (launch start d).state = match d.table.onBank? d.config.mode.dmaBar start.program with
      | some o => (d.adopt o).2
      | none => d := by
  simp only [launch, h, onBank?]
  cases d.table.onBank? d.config.mode.dmaBar start.program <;> rfl

theorem launch_withLedger (start : Start) (l : TransferLedger) (d : Device ε) :
    (launch start (d.withLedger l)).state = (launch start d).state.withLedger l := by
  cases h : d.engine with
  | some engine =>
    rw [launch_of_engine h, launch_of_engine (d := d.withLedger l) h]
    rfl
  | none =>
    rw [launch_of_board h, launch_of_board (d := d.withLedger l) h]
    simp only [withLedger]
    cases d.table.onBank? d.config.mode.dmaBar start.program <;> rfl

/-! ## One entry after another -/

/-- does to a device what one entry did, books apart -/
def replayStep (d : Device ε) : DeviceStep → Device ε
  | .started start _ => (launch start d).state
  | .raised _ (.ok (.dmaDone r)) => d.account r
  | .raised _ (.ok (.forwarded source)) => d.tell (.interrupt source)
  | .raised _ (.ok .spurious) => d
  | .raised _ (.error _) => d

/-- does to a device what each entry did, in order -/
def replay (steps : List DeviceStep) (d : Device ε) : Device ε := steps.foldl replayStep d

theorem replayStep_withLedger (s : DeviceStep) (l : TransferLedger) (d : Device ε) :
    (d.withLedger l).replayStep s = (d.replayStep s).withLedger l := by
  cases s with
  | started start result => exact launch_withLedger start l d
  | raised irq answer =>
    cases answer with
    | error e => rfl
    | ok outcome => cases outcome <;> rfl

theorem replay_withLedger (steps : List DeviceStep) (l : TransferLedger) (d : Device ε) :
    (d.withLedger l).replay steps = (d.replay steps).withLedger l := by
  induction steps generalizing d with
  | nil => rfl
  | cons s steps ih =>
    calc (d.withLedger l).replay (s :: steps)
        = ((d.withLedger l).replayStep s).replay steps := rfl
      _ = ((d.replayStep s).withLedger l).replay steps := by rw [replayStep_withLedger]
      _ = (d.replay (s :: steps)).withLedger l := ih (d.replayStep s)

theorem replay_append (steps more : List DeviceStep) (d : Device ε) :
    d.replay (steps ++ more) = (d.replay steps).replay more :=
  List.foldl_append

/-- `e` is what the entries leave of `d`, books apart -/
def Replays (d : Device ε) (steps : List DeviceStep) (e : Device ε) : Prop :=
  e = (d.replay steps).withLedger e.ledger

namespace Replays

variable {d e f : Device ε} {steps more : List DeviceStep}

theorem refl (d : Device ε) : Replays d [] d := rfl

theorem books (l : TransferLedger) (d : Device ε) : Replays d [] { d with ledger := l } := rfl

theorem single (d : Device ε) (s : DeviceStep) : Replays d [s] (d.replayStep s) := rfl

theorem append (h : Replays d steps e) (h' : Replays e more f) : Replays d (steps ++ more) f := by
  unfold Replays at h h' ⊢
  rw [h, replay_withLedger, withLedger_withLedger] at h'
  rw [replay_append]
  exact h'

end Replays

/-! ## Nested answers in a row -/

/-- whatever answers interrupts leaves the replay of what it made the engine do, and of the answer -/
def AnswerReplays (answer : UInt32 → Device ε → Result ε (Except Error InterruptOutcome)) : Prop :=
  ∀ irq d, Replays d ((answer irq d).2.2.steps ++ [.raised irq (answer irq d).1]) (answer irq d).2.1

/-- whatever starts transfers leaves the replay of what the engine did -/
def KickReplays (kick : Start → Device ε → Device ε × EngineActivity (Except Error InterruptOutcome)) : Prop :=
  ∀ start d, Replays d (kick start d).2.steps (kick start d).1

section

variable {answer : UInt32 → Device ε → Result ε (Except Error InterruptOutcome)}
  {kick : Start → Device ε → Device ε × EngineActivity (Except Error InterruptOutcome)}

theorem answerAll_replays (h : AnswerReplays answer) (irqs : List UInt32) (d : Device ε) :
    Replays d (answerAll answer irqs d).2.steps (answerAll answer irqs d).1 := by
  induction irqs generalizing d with
  | nil => exact .refl d
  | cons irq irqs ih => exact (h irq d).append (ih (answer irq d).2.1)

theorem kickOff_replays (h : AnswerReplays answer) : KickReplays (kickOff launch answer) := by
  intro start d
  have first : Replays d [.started start (launch start d).result] (launch start d).state := .single d _
  exact first.append (answerAll_replays h (launch start d).raised (launch start d).state)

theorem kickOff?_replays (hk : KickReplays kick) (start? : Option Start) (d : Device ε) :
    Replays d (kickOff? kick start? d).2.steps (kickOff? kick start? d).1 := by
  cases start? with
  | none => exact .refl d
  | some start => exact hk start d

theorem interruptWith_replays (hk : KickReplays kick) : AnswerReplays (interruptWith kick) := by
  intro irq d
  cases hroute : d.router.route irq with
  | error e =>
    simp only [interruptWith, hroute]
    exact .single d (.raised irq (.error e))
  | ok route =>
    cases route with
    | source vector name =>
      simp only [interruptWith, hroute]
      exact .single d (.raised irq (.ok (.forwarded (sourceOfVector vector))))
    | dma c =>
      simp only [interruptWith, hroute, retireWith]
      cases hd : d.ledger.retire irq with
      | error e => exact .single d (.raised irq (.ok .spurious))
      | ok p =>
        have started := kickOff?_replays hk p.1.next { d with ledger := p.2 }
        -- the owner is told after all that the next start brought about
        exact ((Replays.books p.2 d).append started).append (.single _ (.raised irq (.ok (.dmaDone p.1.report))))

end

theorem interruptWithin_replays (depth : Nat) : AnswerReplays (ε := ε) (interruptWithin depth) := by
  induction depth with
  | zero => exact interruptWith_replays fun _ d => .refl d
  | succ depth ih => exact interruptWith_replays (kickOff_replays ih)

theorem interrupt_replays : AnswerReplays (ε := ε) interrupt :=
  fun irq d => interruptWithin_replays _ irq d

theorem submit_replays (r : Request) (d : Device ε) : Replays d (submit r d).2.steps (submit r d).1 :=
  (Replays.books _ d).append (kickOff?_replays (kickOff_replays interrupt_replays) _ _)

/-! ## Runs, command by command -/

omit [TransferEngine ε] in
/-- the interrupt of a map of sources, if the board is simulated and the map is not empty -/
def simulated? (source : UInt32) (d : Device ε) : Option UInt32 :=
  (do d.requireSimulator "simulate_irq"; d.router.irqForSource source : Except Error UInt32).toOption

theorem simulate_replays (source : UInt32) (d : Device ε) :
    Replays d ((d.simulate source).2.2.steps ++
      (d.simulated? source).toList.map fun irq => .raised irq (d.interrupt irq).1) (d.simulate source).2.1 := by
  unfold simulate simulated?
  cases (do d.requireSimulator "simulate_irq"; d.router.irqForSource source : Except Error UInt32) with
  | error e => exact .refl d
  | ok irq => exact interrupt_replays irq d

/-- an interrupt is answered in the same way after an operation has been counted -/
theorem interrupt_control (irq : UInt32) (d : Device ε) : (d.control.interrupt irq).1 = (d.interrupt irq).1 := by
  rw [interrupt_answer, interrupt_answer]
  rfl

/-- the settings, the engine and the host's clock are those of `d` -/
structure Fixed (d e : Device ε) : Prop where
  config : e.config = d.config
  engine : e.engine = d.engine
  elapsed : e.elapsed = d.elapsed

omit [TransferEngine ε] in
theorem Fixed.refl (d : Device ε) : Fixed d d := ⟨rfl, rfl, rfl⟩

/-- **All that a request does that drives no engine**: it changes what sessions have and what is counted; or it is an
access to registers; or it drops the transfers. -/
theorem serve_cases (s : Session) {request : SessionRequest} (h : request.drivesEngine = false) (d : Device ε) :
    let e := (serve s request d).2.1
    (∃ registry memory statistics,
      e = { d with registry := registry, memory := memory, statistics := statistics }) ∨
    (∃ (α : Type) (x : Action (RegisterTable BoardBackend) α), RegisterTable.UserAccess x ∧
      e = (d.control.adopt (x d.table)).2) ∨
    request = .reset ∧ ∃ ledger statistics, e = { d with ledger := ledger, statistics := statistics } := by
  intro e
  cases request with
  | submit | simulate => cases h
  | read bar offset => exact .inr (.inl ⟨_, _, .read bar offset, rfl⟩)
  | readRange bar offset count => exact .inr (.inl ⟨_, _, .readRange bar offset count, rfl⟩)
  | write bar offset value => exact .inr (.inl ⟨_, _, .write bar offset value, rfl⟩)
  | modify bar offset clear set => exact .inr (.inl ⟨_, _, .modify bar offset clear set, rfl⟩)
  | setMode bar offset mode => exact .inr (.inl ⟨_, _, .setMode bar offset mode, rfl⟩)
  | setEventMask mask =>
    simp only [e, serve, setEventMask, modifySubscriber]
    split <;> exact .inl ⟨_, _, _, rfl⟩
  | setForwardingMask mask =>
    simp only [e, serve, setForwardingMask, modifySubscriber]
    split <;> exact .inl ⟨_, _, _, rfl⟩
  | dequeue =>
    simp only [e, serve, dequeueEvent]
    split <;> exact .inl ⟨_, _, _, rfl⟩
  | drain =>
    simp only [e, serve, drainEvents]
    split <;> exact .inl ⟨_, _, _, rfl⟩
  | setupMemory size =>
    simp only [e, serve, reply, setupMemory]
    split <;> exact .inl ⟨_, _, _, rfl⟩
  | transferMemory direction offset buffer =>
    simp only [e, serve, reply, transferMemory]
    split <;> exact .inl ⟨_, _, _, rfl⟩
  | poll | close => exact .inl ⟨_, _, _, rfl⟩
  | reset =>
    refine .inr (.inr ⟨rfl, ?_⟩)
    simp only [e, serve, reply, resetTransfers]
    split <;> exact ⟨_, _, rfl⟩

/-- a request that drives no engine leaves the engine, the worker and the next session's id alone -/
theorem serve_fixed (s : Session) {request : SessionRequest} (h : request.drivesEngine = false) (d : Device ε) :
    Fixed d (serve s request d).2.1 ∧ (serve s request d).2.1.dispatcher = d.dispatcher ∧
      (serve s request d).2.1.nextSession = d.nextSession := by
  rcases serve_cases s h d with ⟨_, _, _, he⟩ | ⟨_, x, -, he⟩ | ⟨-, _, _, he⟩ <;> rw [he] <;>
    exact ⟨⟨rfl, rfl, rfl⟩, rfl, rfl⟩

/-- one command of a run, and the device that it is given to -/
structure Moment (ε : Type) where
  before : Device ε
  command : Command

namespace Moment

omit [TransferEngine ε] in
def raised? (m : Moment ε) : Option UInt32 :=
  match m.command with
  | .interrupt irq => some irq
  | .simulate source => m.before.simulated? source
  | .session number (.simulate source) => (m.before.session? number).bind fun _ => m.before.simulated? source
  | _ => none

variable (m : Moment ε)

def answer : Except Error Reply := (m.before.step m.command).1

def after : Device ε := (m.before.step m.command).2.1

def activity : EngineActivity (Except Error InterruptOutcome) := (m.before.step m.command).2.2

/-- what happened, in order: what the engine did, and the answer to the interrupt that the command raises -/
def steps : List DeviceStep :=
  m.activity.steps ++ m.raised?.toList.map fun irq => .raised irq (m.before.interrupt irq).1

/-- what the command does before the engine runs; a command without an engine does nothing else -/
def own : Device ε :=
  match m.command with
  | .session number (.submit _ _ _ length _) =>
    if (m.before.session? number).isSome ∧ length ≠ 0 then m.before.control else m.before
  | .session number (.simulate _) => if (m.before.session? number).isSome then m.before.control else m.before
  | .interrupt _ | .simulate _ => m.before
  | _ => m.after

theorem steps_of_raised?_eq_none (h : m.raised? = none) : m.steps = m.activity.steps := by
  simp [steps, h]

theorem replays_of_quiet (hsteps : m.activity.steps = []) (h : m.raised? = none) : Replays m.after m.steps m.after := by
  rw [m.steps_of_raised?_eq_none h, hsteps]
  exact .refl _

/-- **A command has an effect of its own, then what the engine did for it takes effect**, books apart. -/
theorem replays : Replays m.own m.steps m.after := by
  obtain ⟨d, c⟩ := m
  cases c with
  | interrupt irq => exact interrupt_replays irq d
  | simulate source => exact simulate_replays source d
  | session number request =>
    cases hs : d.session? number with
    | none =>
      have hstep : step (.session number request) d = (.ok .noSession, d, {}) := by simp only [step, hs]
      have hown : (⟨d, .session number request⟩ : Moment ε).own = (⟨d, .session number request⟩ : Moment ε).after := by
        cases request <;> simp [own, after, hs, hstep]
      rw [hown]
      exact replays_of_quiet _ (congrArg (·.2.2.steps) hstep) (by cases request <;> simp [raised?, hs])
    | some s =>
      cases request with
      | submit direction system device length watched =>
        rw [steps_of_raised?_eq_none _ rfl]
        simp only [own, after, activity, step, hs, serve, replyWith, submitTransfer, Option.isSome_some, true_and]
        by_cases hlength : length = 0
        · rw [if_neg (not_not_intro hlength), if_pos hlength]
          exact .refl d
        · rw [if_pos hlength, if_neg hlength]
          exact (Replays.books _ d.control).append (submit_replays _ _)
      | simulate source =>
        have hreplays := simulate_replays source d.control
        simp only [interrupt_control] at hreplays
        simp only [own, after, steps, activity, raised?, step, hs, serve, replyWith, simulateFor, Option.isSome_some,
          if_true, Option.bind_some]
        exact hreplays
      | _ => exact replays_of_quiet _ (by simp only [activity, step, hs, serve, reply]) rfl
  | _ => exact replays_of_quiet _ rfl rfl

/-- all that a session's request can do of itself -/
theorem own_session_cases (d : Device ε) (number : Nat) (request : SessionRequest) :
    let own := (⟨d, .session number request⟩ : Moment ε).own
    own = d ∨ own = d.control ∨
      ∃ s, d.session? number = some s ∧ request.drivesEngine = false ∧ own = (serve s request d).2.1 := by
  intro own
  cases hs : d.session? number with
  | none =>
    have hstep : step (.session number request) d = (.ok .noSession, d, {}) := by simp only [step, hs]
    refine .inl ?_
    cases request <;> simp [own, Moment.own, after, hs, hstep]
  | some s =>
    have hstep : step (.session number request) d = serve s request d := by simp only [step, hs]
    cases request with
    | submit direction system device length watched =>
      simp only [own, Moment.own]
      split
      · exact .inr (.inl rfl)
      · exact .inl rfl
    | simulate source =>
      simp only [own, Moment.own]
      split
      · exact .inr (.inl rfl)
      · exact .inl rfl
    | _ => exact .inr (.inr ⟨s, rfl, by rfl, congrArg (·.2.1) hstep⟩)

/-- all that a command can do of itself -/
theorem own_cases :
    m.own = m.before ∨ m.own = m.before.control ∨
    (∃ number s request, m.command = .session number request ∧ m.before.session? number = some s ∧
      request.drivesEngine = false ∧ m.own = (serve s request m.before).2.1) ∨
    m.command = .openSession ∧ m.own = m.before.openSession.2 ∨
    (∃ on, m.own = m.before.setTracking on) ∨ m.own = m.before.hold ∨ m.own = m.before.release := by
  obtain ⟨d, c⟩ := m
  cases c with
  | openSession => exact .inr (.inr (.inr (.inl ⟨rfl, rfl⟩)))
  | interrupt irq => exact .inl rfl
  | simulate source => exact .inl rfl
  | setTracking on => exact .inr (.inr (.inr (.inr (.inl ⟨on, rfl⟩))))
  | hold => exact .inr (.inr (.inr (.inr (.inr (.inl rfl)))))
  | release => exact .inr (.inr (.inr (.inr (.inr (.inr rfl)))))
  | session number request =>
    rcases own_session_cases d number request with h | h | ⟨s, hs, hengine, h⟩
    · exact .inl h
    · exact .inr (.inl h)
    · exact .inr (.inr (.inl ⟨number, s, request, rfl, hs, hengine, h⟩))

/-- no command changes the settings, the engine or the host's clock by itself -/
theorem own_fixed : Fixed m.before m.own := by
  rcases m.own_cases with h | h | ⟨_, s, request, -, -, hengine, h⟩ | ⟨-, h⟩ | ⟨on, h⟩ | h | h
  · rw [h]
    exact .refl _
  · rw [h]
    exact ⟨rfl, rfl, rfl⟩
  · rw [h]
    exact (serve_fixed s hengine m.before).1
  all_goals
    rw [h]
    exact ⟨rfl, rfl, rfl⟩

end Moment

theorem run_cons (d : Device ε) (c : Command) (commands : List Command) :
    (d.run (c :: commands)).1 = ((d.step c).2.1.run commands).1 := by
  induction commands using List.reverseRecOn with
  | nil => rfl
  | append_singleton commands last ih => rw [← List.cons_append, run_snoc, run_snoc, ih]

theorem run_append (d : Device ε) (commands more : List Command) :
    (d.run (commands ++ more)).1 = ((d.run commands).1.run more).1 := by
  induction commands generalizing d with
  | nil => rfl
  | cons c commands ih => rw [List.cons_append, run_cons, run_cons, ih]

/-- the commands of a run, each with the device that it is given to -/
def moments (d : Device ε) : List Command → List (Moment ε)
  | [] => []
  | c :: cs => ⟨d, c⟩ :: moments (d.step c).2.1 cs

theorem moments_snoc (d : Device ε) (commands : List Command) (c : Command) :
    d.moments (commands ++ [c]) = d.moments commands ++ [⟨(d.run commands).1, c⟩] := by
  induction commands generalizing d with
  | nil => rfl
  | cons first commands ih =>
    rw [run_cons]
    exact congrArg (_ :: ·) (ih (d.step first).2.1)

/-- each command of a run is given to what the commands before it leave -/
theorem mem_moments {d : Device ε} {commands : List Command} {m : Moment ε} (h : m ∈ d.moments commands) :
    ∃ earlier later, commands = earlier ++ m.command :: later ∧ m.before = (d.run earlier).1 := by
  induction commands generalizing d with
  | nil => cases h
  | cons c commands ih =>
    rcases List.mem_cons.1 h with rfl | h
    · exact ⟨[], commands, rfl, rfl⟩
    · obtain ⟨earlier, later, hcommands, hbefore⟩ := ih h
      refine ⟨c :: earlier, later, congrArg (c :: ·) hcommands, ?_⟩
      rw [run_cons]
      exact hbefore

end Device
end BoardDriver

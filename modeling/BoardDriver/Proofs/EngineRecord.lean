/-
An engine that keeps a record of the starts that it is told.

The log of an operation is put together by those who drive the engine. That it tells of the calls which the engine has
received, each of them and in this order, is seen by giving the engine a record of its own: the record is then the log,
and nothing else is different.

- `RecordingEngine`: any engine, with a record;
- `AnswersRecorded`, `StartsRecorded`: operations on a state with a record that do what they do without one, and record
  the starts of the log;
- `answerAll_recorded`, `kickOff_recorded`: they may be put together, however deep the answers are nested;
- `Client.run_recording`, `Device.interrupt_recording`: so it is for a client of a unit and for the interrupts of a
  device.
-/
import BoardDriver.Proofs.Client
import BoardDriver.Device.Basic

namespace BoardDriver

/-- an engine and the starts that it has been told, oldest first -/
structure RecordingEngine (ε : Type) where
  engine : ε
  told : List Start := []

instance {ε : Type} [TransferEngine ε] : TransferEngine (RecordingEngine ε) where
  start s r := Action.on r.engine (fun engine => { engine := engine, told := r.told ++ [s] }) (TransferEngine.start s)
  raises r := TransferEngine.raises r.engine

/-! ## Operations with a record -/

section

variable {σ τ α : Type} {record : τ → List Start → σ}

/-- what is left of an operation whose starts have been recorded, after those in `told` -/
def recorded (record : τ → List Start → σ) (told : List Start) (x : τ × EngineActivity α) : σ × EngineActivity α :=
  (record x.1 (told ++ x.2.starts), x.2)

/-- with a record, interrupts have the answers that they have without, and the starts that follow are recorded -/
def AnswersRecorded (record : τ → List Start → σ) (f : UInt32 → σ → α × σ × EngineActivity α)
    (g : UInt32 → τ → α × τ × EngineActivity α) : Prop :=
  ∀ irq t told, f irq (record t told) = ((g irq t).1, recorded record told (g irq t).2)

/-- with a record, starts do what they do without, and are recorded with all that follow -/
def StartsRecorded (record : τ → List Start → σ) (f : Start → σ → σ × EngineActivity α)
    (g : Start → τ → τ × EngineActivity α) : Prop :=
  ∀ start t told, f start (record t told) = recorded record told (g start t)

/-- nothing is recorded of an operation that starts nothing -/
theorem recorded_empty (t : τ) (told : List Start) :
    recorded record told (t, ({} : EngineActivity α)) = (record t told, {}) := by
  simp [recorded]

theorem answerAll_recorded {f : UInt32 → σ → α × σ × EngineActivity α} {g : UInt32 → τ → α × τ × EngineActivity α}
    (h : AnswersRecorded record f g) (irqs : List UInt32) (t : τ) (told : List Start) :
    answerAll f irqs (record t told) = recorded record told (answerAll g irqs t) := by
  induction irqs generalizing t told with
  | nil => exact (recorded_empty t told).symm
  | cons irq irqs ih =>
    have hfirst := h irq t told
    have hrest := ih (g irq t).2.1 (told ++ (g irq t).2.2.starts)
    simp only [answerAll, hfirst, recorded] at hrest ⊢
    rw [hrest]
    simp [List.append_assoc]

theorem kickOff_recorded {launch : Start → σ → Launched σ} {launch' : Start → τ → Launched τ}
    {f : UInt32 → σ → α × σ × EngineActivity α} {g : UInt32 → τ → α × τ × EngineActivity α}
    (hlaunch : ∀ start t told, launch start (record t told) =
      { launch' start t with state := record (launch' start t).state (told ++ [start]) })
    (h : AnswersRecorded record f g) : StartsRecorded record (kickOff launch f) (kickOff launch' g) := by
  intro start t told
  have hrest := answerAll_recorded h (launch' start t).raised (launch' start t).state (told ++ [start])
  simp only [kickOff, hlaunch, hrest]
  simp [recorded]

theorem kickOff?_recorded {f : Start → σ → σ × EngineActivity α} {g : Start → τ → τ × EngineActivity α}
    (h : StartsRecorded record f g) (start? : Option Start) (t : τ) (told : List Start) :
    kickOff? f start? (record t told) = recorded record told (kickOff? g start? t) := by
  cases start? with
  | none => exact (recorded_empty t told).symm
  | some start => exact h start t told

end

variable {ε : Type}

/-! ## Units -/

namespace DmaUnit

def recording (u : DmaUnit ε) (told : List Start) : DmaUnit (RecordingEngine ε) :=
  { u with engine := { engine := u.engine, told := told } }

/-- an interrupt is answered with a record as it is without, if the start that follows is made so -/
theorem completeWith_recording
    {f : Start → DmaUnit (RecordingEngine ε) → DmaUnit (RecordingEngine ε) × EngineActivity (Except Error Retired)}
    {g : Start → DmaUnit ε → DmaUnit ε × EngineActivity (Except Error Retired)} (h : StartsRecorded recording f g) :
    AnswersRecorded recording (completeWith f) (completeWith g) := by
  intro irq u told
  cases hretire : u.toTransferLedger.retire irq with
  | error e =>
    have hrecorded : (u.recording told).toTransferLedger.retire irq = .error e := hretire
    simp only [completeWith, hretire, hrecorded, recorded_empty]
  | ok p =>
    obtain ⟨done, ledger⟩ := p
    have hrecorded : (u.recording told).toTransferLedger.retire irq = .ok (done, ledger) := hretire
    have hkick := kickOff?_recorded h done.next { u with toTransferLedger := ledger } told
    simp only [completeWith, hretire, hrecorded]
    exact congrArg (Prod.mk _) hkick

variable [TransferEngine ε]

theorem launch_recording (start : Start) (u : DmaUnit ε) (told : List Start) :
    launch start (u.recording told) =
      { launch start u with state := (launch start u).state.recording (told ++ [start]) } := rfl

theorem completeWithin_recording (depth : Nat) :
    AnswersRecorded recording (completeWithin (ε := RecordingEngine ε) depth) (completeWithin depth) := by
  induction depth with
  | zero => exact completeWith_recording fun _ u told => (recorded_empty u told).symm
  | succ depth ih => exact completeWith_recording (kickOff_recorded launch_recording ih)

theorem complete_recording : AnswersRecorded recording (complete (ε := RecordingEngine ε)) complete :=
  fun irq u told => completeWithin_recording u.scheduler.pending.length irq u told

theorem submit_recording (r : Request) (u : DmaUnit ε) (told : List Start) :
    submit r (u.recording told) = recorded recording told (submit r u) :=
  kickOff?_recorded (kickOff_recorded launch_recording complete_recording) (u.toTransferLedger.submit r).1
    { u with toTransferLedger := (u.toTransferLedger.submit r).2 } told

end DmaUnit

/-! ## Clients -/

namespace Client

/-- the client of a unit whose engine has recorded the starts that the client has seen it told -/
def recording (c : Client ε) : Client (RecordingEngine ε) :=
  { c with engine := { engine := c.engine, told := c.starts } }

variable [TransferEngine ε]

theorem step_recording (c : Client ε) (op : Op) : c.recording.step op = (c.step op).recording := by
  cases op with
  | submit r =>
    by_cases hr : r ∈ c.held
    · have hsubmit := DmaUnit.submit_recording r c.toDmaUnit c.starts
      have hheld : r ∈ c.recording.held := hr
      simp only [step, if_pos hr, if_pos hheld]
      rw [show c.recording.toDmaUnit = c.toDmaUnit.recording c.starts from rfl, hsubmit]
      rfl
    · have hheld : r ∉ c.recording.held := hr
      simp only [step, if_neg hr, if_neg hheld]
  | complete irq =>
    have hcomplete := DmaUnit.complete_recording irq c.toDmaUnit c.starts
    simp only [step]
    rw [show c.recording.toDmaUnit = c.toDmaUnit.recording c.starts from rfl, hcomplete]
    rfl
  | create descriptor cookie watched => rfl
  | enable channel irq | bind base | reset => rfl

/-- **The starts that a client has seen are those that the engine was told.** With a record in its engine a run is what
it is without, and the record is what the client has seen. -/
theorem run_recording (c : Client ε) (ops : List Op) : c.recording.run ops = (c.run ops).recording := by
  induction ops generalizing c with
  | nil => rfl
  | cons op ops ih =>
    calc c.recording.run (op :: ops) = (c.step op).recording.run ops := by rw [← step_recording]; rfl
      _ = (c.run (op :: ops)).recording := ih (c.step op)

end Client

/-! ## Devices -/

namespace Device

/-- the device with a record of starts in the engine that it was given, if it was given one -/
def recording (d : Device ε) (told : List Start) : Device (RecordingEngine ε) :=
  { d with engine := d.engine.map fun engine => { engine := engine, told := told } }

/-- an interrupt is answered with a record as it is without, if the start that follows is made so -/
theorem interruptWith_recording
    {f : Start → Device (RecordingEngine ε) →
      Device (RecordingEngine ε) × EngineActivity (Except Error InterruptOutcome)}
    {g : Start → Device ε → Device ε × EngineActivity (Except Error InterruptOutcome)}
    (h : StartsRecorded recording f g) : AnswersRecorded recording (interruptWith f) (interruptWith g) := by
  intro irq d told
  have hroute : (d.recording told).router.route irq = d.router.route irq := rfl
  cases hr : d.router.route irq with
  | error e => simp only [interruptWith, hroute, hr, recorded_empty]
  | ok route =>
    cases route with
    | source v name =>
      simp only [interruptWith, hroute, hr, recorded_empty]
      rfl
    | dma c =>
      simp only [interruptWith, hroute, hr, retireWith]
      cases hretire : d.ledger.retire irq with
      | error e =>
        have hrecorded : (d.recording told).ledger.retire irq = .error e := hretire
        simp only [hrecorded, recorded_empty]
      | ok p =>
        obtain ⟨done, ledger⟩ := p
        have hrecorded : (d.recording told).ledger.retire irq = .ok (done, ledger) := hretire
        have hkick : kickOff? f done.next { d.recording told with ledger := ledger } = _ :=
          kickOff?_recorded h done.next { d with ledger := ledger } told
        simp only [hrecorded, hkick]
        rfl

variable [TransferEngine ε]

/-- the board's own engine has no record, and a start leaves none -/
theorem launch_recording (start : Start) (d : Device ε) (told : List Start) :
    launch start (d.recording told) =
      { launch start d with state := (launch start d).state.recording (told ++ [start]) } := by
  cases hengine : d.engine with
  | some engine =>
    have hrecorded : (d.recording told).engine = some { engine := engine, told := told } := by
      simp only [recording, hengine, Option.map_some]
    simp only [launch, hengine, hrecorded]
    rfl
  | none =>
    have hrecorded : (d.recording told).engine = none := by
      simp only [recording, hengine, Option.map_none]
    have hbank : (d.recording told).onBank? d.config.mode.dmaBar start.program =
        (d.onBank? d.config.mode.dmaBar start.program).map fun (result, d) => (result, d.recording told) := by
      simp only [onBank?, Option.map_map]
      rfl
    have hmode : (d.recording told).config.mode = d.config.mode := rfl
    simp only [launch, hengine, hrecorded, hmode, hbank]
    unfold onBank?
    cases d.table.onBank? d.config.mode.dmaBar start.program with
    | none => simp only [Option.map_none, recording, hengine]
    | some o => simp only [Option.map_some, adopt, recording, hengine, Option.map_none]

theorem interruptWithin_recording (depth : Nat) :
    AnswersRecorded recording (interruptWithin (ε := RecordingEngine ε) depth) (interruptWithin depth) := by
  induction depth with
  | zero => exact interruptWith_recording fun _ d told => (recorded_empty d told).symm
  | succ depth ih => exact interruptWith_recording (kickOff_recorded launch_recording ih)

/-- **The log of an interrupt is what the engine was told.** -/
theorem interrupt_recording : AnswersRecorded recording (interrupt (ε := RecordingEngine ε)) interrupt :=
  fun irq d told => interruptWithin_recording d.ledger.scheduler.pending.length irq d told

end Device
end BoardDriver

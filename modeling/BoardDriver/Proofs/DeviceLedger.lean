/-
What the commands of a device do to its books.

Sessions make requests and hand them in, and may drop them all; an interrupt retires a request only if it is a DMA
vector of the board. Everything else a device does leaves its books alone, and nothing changes its settings.

- `interruptWith_answer`: what an interrupt is answered, whatever it starts;
- `interruptWithin_holds`, `submit_holds`, `step_holds`: what each piece of bookkeeping keeps, every command keeps;
- `run_holds`: and every run.
-/
import Mathlib.Data.List.Induction
import BoardDriver.Device.Command
import BoardDriver.Proofs.Nesting

namespace BoardDriver

/-- what survives every piece of bookkeeping of a device but a reset -/
structure LedgerInvariant (router : InterruptRouter) (Q : TransferLedger → Prop) : Prop where
  create : ∀ l descriptor cookie watched, Q l → Q (l.newRequest descriptor cookie watched).2.2
  submit : ∀ l r, Q l → Q (l.submit r).2
  retire : ∀ irq c done l m, router.route irq = .ok (.dma c) → l.retire irq = .ok (done, m) → Q l → Q m

/-- the command drops every request, if the board lets it -/
def Command.isReset : Command → Bool
  | .session _ .reset => true
  | _ => false

namespace Device

variable {ε α : Type}

/-- the device has these settings, and its books are as `Q` says -/
def Holds (config : Config) (Q : TransferLedger → Prop) (d : Device ε) : Prop :=
  d.config = config ∧ Q d.ledger

/-- the books and the settings are those of the other device -/
theorem Holds.of_eq {config : Config} {Q : TransferLedger → Prop} {d e : Device ε} (h : d.Holds config Q)
    (hc : e.config = d.config) (hl : e.ledger = d.ledger) : e.Holds config Q :=
  ⟨hc.trans h.1, hl ▸ h.2⟩

/-! ## Interrupts -/

/-- what an interrupt is answered, as far as the settings and the books tell -/
def answerTo (irq : UInt32) (d : Device ε) : Except Error InterruptOutcome :=
  match d.router.route irq with
  | .error e => .error e
  | .ok (.source vector _) => .ok (.forwarded (sourceOfVector vector))
  | .ok (.dma _) =>
    match d.ledger.retire irq with
    | .ok (done, _) => .ok (.dmaDone done.report)
    | .error _ => .ok .spurious

theorem interruptWith_answer (kick : Start → Device ε → Device ε × EngineActivity (Except Error InterruptOutcome))
    (irq : UInt32) (d : Device ε) : (interruptWith kick irq d).1 = d.answerTo irq := by
  cases hroute : d.router.route irq with
  | error e => simp only [interruptWith, answerTo, hroute]
  | ok route =>
    cases route with
    | source vector name => simp only [interruptWith, answerTo, hroute]
    | dma c =>
      simp only [interruptWith, answerTo, hroute, retireWith]
      cases d.ledger.retire irq <;> rfl

theorem interruptWith_holds {kick : Start → Device ε → Device ε × EngineActivity (Except Error InterruptOutcome)}
    {config : Config} {Q : TransferLedger → Prop} (hQ : LedgerInvariant ⟨config.mode, config.irqBase⟩ Q)
    (hk : ∀ start d, d.Holds config Q → (kick start d).1.Holds config Q) (irq : UInt32) (d : Device ε)
    (h : d.Holds config Q) : (interruptWith kick irq d).2.1.Holds config Q := by
  obtain ⟨rfl, hl⟩ := h
  simp only [interruptWith]
  split
  · exact ⟨rfl, hl⟩
  · exact ⟨rfl, hl⟩
  · rename_i c hroute
    simp only [retireWith]
    cases hd : d.ledger.retire irq with
    | error e => exact ⟨rfl, hl⟩
    | ok p =>
      have next := kickOff?_keeps hk p.1.next { d with ledger := p.2 } ⟨rfl, hQ.retire irq c p.1 _ _ hroute hd hl⟩
      exact next.of_eq rfl rfl

variable [TransferEngine ε]

theorem launch_holds {config : Config} {Q : TransferLedger → Prop} (start : Start) (d : Device ε)
    (h : d.Holds config Q) : (launch start d).state.Holds config Q := by
  simp only [launch]
  split
  · exact h.of_eq rfl rfl
  · split
    · rename_i hbank
      simp only [onBank?, Option.map_eq_some_iff] at hbank
      obtain ⟨o, -, ho⟩ := hbank
      cases ho
      exact h.of_eq rfl rfl
    · exact h

section

variable {config : Config} {Q : TransferLedger → Prop} (hQ : LedgerInvariant ⟨config.mode, config.irqBase⟩ Q)
include hQ

theorem interruptWithin_holds (depth : Nat) (irq : UInt32) (d : Device ε) (h : d.Holds config Q) :
    (interruptWithin depth irq d).2.1.Holds config Q := by
  induction depth generalizing irq d with
  | zero => exact interruptWith_holds hQ (fun _ _ h => h) irq d h
  | succ depth ih => exact interruptWith_holds hQ (kickOff_keeps launch_holds ih) irq d h

theorem interrupt_holds (irq : UInt32) (d : Device ε) (h : d.Holds config Q) : (interrupt irq d).2.1.Holds config Q :=
  interruptWithin_holds hQ _ irq d h

theorem submit_holds (r : Request) (d : Device ε) (h : d.Holds config Q) : (submit r d).1.Holds config Q :=
  kickOff?_keeps (kickOff_keeps launch_holds (interrupt_holds hQ)) _ _ ⟨h.1, hQ.submit d.ledger r h.2⟩

theorem simulate_holds (source : UInt32) (d : Device ε) (h : d.Holds config Q) :
    (simulate source d).2.1.Holds config Q := by
  simp only [simulate]
  split
  · exact h
  · exact interrupt_holds hQ _ d h

theorem submitTransfer_holds (s : Session) (direction : Direction) (system device length : UInt32) (watched : Bool)
    (d : Device ε) (h : d.Holds config Q) :
    (submitTransfer s direction system device length watched d).2.1.Holds config Q := by
  simp only [submitTransfer]
  split
  · exact h
  · exact submit_holds hQ _ _ ⟨h.1, hQ.create d.ledger _ _ _ h.2⟩

end

omit [TransferEngine ε] in
theorem modifySubscriber_holds {config : Config} {Q : TransferLedger → Prop} (s : Session)
    (f : Subscriber → Subscriber) (d : Device ε) (h : d.Holds config Q) : (d.modifySubscriber s f).Holds config Q := by
  simp only [modifySubscriber]
  split
  · exact h.of_eq rfl rfl
  · exact h

omit [TransferEngine ε] in
theorem resetTransfers_holds {config : Config} {Q : TransferLedger → Prop} (hreset : ∀ l, Q l → Q l.reset.2)
    (d : Device ε) (h : d.Holds config Q) : d.resetTransfers.2.Holds config Q := by
  simp only [resetTransfers]
  split
  · exact h
  · exact ⟨h.1, hreset d.ledger h.2⟩

/-- an interrupt is answered as the settings and the books tell, whatever starts after it -/
theorem interrupt_answer (irq : UInt32) (d : Device ε) : (interrupt irq d).1 = d.answerTo irq := by
  simp only [interrupt]
  cases d.ledger.scheduler.pending.length <;> exact interruptWith_answer _ irq d

/-! ## Commands -/

theorem run_snoc (d : Device ε) (commands : List Command) (command : Command) :
    (d.run (commands ++ [command])).1 = ((d.run commands).1.step command).2.1 := by
  simp [run]

theorem serve_holds {config : Config} {Q : TransferLedger → Prop}
    (hQ : LedgerInvariant ⟨config.mode, config.irqBase⟩ Q) (s : Session) (request : SessionRequest)
    (hreset : request = .reset → ∀ l, Q l → Q l.reset.2) (d : Device ε) (h : d.Holds config Q) :
    (serve s request d).2.1.Holds config Q := by
  cases request with
  | submit direction system device length watched =>
    exact submitTransfer_holds hQ s direction system device length watched d h
  | reset => exact resetTransfers_holds (hreset rfl) d h
  | simulate source => exact simulate_holds hQ source d.control (h.of_eq rfl rfl)
  | setEventMask mask => exact modifySubscriber_holds s _ d.control (h.of_eq rfl rfl)
  | setForwardingMask mask => exact modifySubscriber_holds s _ d.control (h.of_eq rfl rfl)
  | dequeue =>
    have hq : (d.dequeueEvent s).2.Holds config Q := by
      simp only [dequeueEvent]
      split <;> exact h.of_eq rfl rfl
    exact hq
  | drain =>
    have hq : (d.drainEvents s).2.Holds config Q := by
      simp only [drainEvents]
      split <;> exact h.of_eq rfl rfl
    exact hq
  | setupMemory size =>
    have hq : (d.setupMemory s size).2.Holds config Q := by
      simp only [setupMemory]
      split <;> exact h.of_eq rfl rfl
    exact hq
  | transferMemory direction offset buffer =>
    have hq : (d.transferMemory s direction offset buffer).2.Holds config Q := by
      simp only [transferMemory]
      split <;> exact h.of_eq rfl rfl
    exact hq
  | _ => exact h.of_eq rfl rfl

theorem step_holds {config : Config} {Q : TransferLedger → Prop}
    (hQ : LedgerInvariant ⟨config.mode, config.irqBase⟩ Q) (command : Command)
    (hreset : command.isReset → ∀ l, Q l → Q l.reset.2) (d : Device ε) (h : d.Holds config Q) :
    (step command d).2.1.Holds config Q := by
  cases command with
  | session number request =>
    simp only [step]
    split
    · exact serve_holds hQ _ request (fun hr => hreset (by rw [hr]; rfl)) d h
    · exact h
  | interrupt irq => exact interrupt_holds hQ irq d h
  | simulate source => exact simulate_holds hQ source d h
  | _ => exact h.of_eq rfl rfl

/-- **What every piece of bookkeeping keeps, every run keeps**; a reset counts only if there is one. -/
theorem run_holds {config : Config} {Q : TransferLedger → Prop}
    (hQ : LedgerInvariant ⟨config.mode, config.irqBase⟩ Q) (commands : List Command)
    (hreset : commands.any Command.isReset → ∀ l, Q l → Q l.reset.2) (d : Device ε) (h : d.Holds config Q) :
    (d.run commands).1.Holds config Q := by
  induction commands using List.reverseRecOn with
  | nil => exact h
  | append_singleton commands command ih =>
    rw [run_snoc]
    have before := ih fun hany => hreset (by simp [hany])
    exact step_holds hQ command (fun hr => hreset (by simp [hr])) _ before

end Device
end BoardDriver

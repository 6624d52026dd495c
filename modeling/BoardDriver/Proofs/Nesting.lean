/-
Interrupts that an engine raises from inside a start, put in order.

However deep their answers are nested, the books see one retirement after another: an answer takes its request off the
books before it starts the next one, and nothing touches the books on the way back. `Retires` is that plain sequence.

- `answerAll_settles`, `kickOff_settles`: for anything that keeps a ledger and answers interrupts through it;
- `DmaUnit.complete_settles`, `DmaUnit.submit_settles`: what a unit does to its ledger and what it has started and
  reported, however its engine behaves.
-/
import BoardDriver.Proofs.Scheduler
import BoardDriver.Transfer.DmaUnit

namespace BoardDriver

/-! ## What an engine was told and what it was answered -/

namespace EngineStep

variable {α : Type}

def start? : EngineStep α → Option Start
  | started start _ => some start
  | raised _ _ => none

def answer? : EngineStep α → Option α
  | started _ _ => none
  | raised _ answer => some answer

end EngineStep

namespace EngineActivity

variable {α : Type}

/-- every start the engine was told, in order -/
def starts (a : EngineActivity α) : List Start := a.steps.filterMap EngineStep.start?

/-- the answers to every interrupt the engine raised, in the order they came back -/
def answers (a : EngineActivity α) : List α := a.steps.filterMap EngineStep.answer?

@[simp] theorem starts_empty : ({} : EngineActivity α).starts = [] := rfl

@[simp] theorem answers_empty : ({} : EngineActivity α).answers = [] := rfl

@[simp] theorem starts_started (start : Start) (result : Except Error Unit) (events : List Event) :
    ({ steps := [.started start result], events := events } : EngineActivity α).starts = [start] := rfl

@[simp] theorem answers_started (start : Start) (result : Except Error Unit) (events : List Event) :
    ({ steps := [.started start result], events := events } : EngineActivity α).answers = [] := rfl

@[simp] theorem starts_raised (irq : UInt32) (answer : α) :
    ({ steps := [.raised irq answer] } : EngineActivity α).starts = [] := rfl

@[simp] theorem answers_raised (irq : UInt32) (answer : α) :
    ({ steps := [.raised irq answer] } : EngineActivity α).answers = [answer] := rfl

@[simp] theorem starts_append (a b : EngineActivity α) : (a ++ b).starts = a.starts ++ b.starts :=
  List.filterMap_append

@[simp] theorem answers_append (a b : EngineActivity α) : (a ++ b).answers = a.answers ++ b.answers :=
  List.filterMap_append

end EngineActivity

/-! ## What every answer keeps -/

section

variable {σ α : Type} {P : σ → Prop} {answer : UInt32 → σ → α × σ × EngineActivity α}

theorem answerAll_keeps (h : ∀ irq s, P s → P (answer irq s).2.1) (irqs : List UInt32) (s : σ) (hs : P s) :
    P (answerAll answer irqs s).1 := by
  induction irqs generalizing s with
  | nil => exact hs
  | cons irq irqs ih => exact ih (answer irq s).2.1 (h irq s hs)

theorem kickOff_keeps {launch : Start → σ → Launched σ} (hl : ∀ start s, P s → P (launch start s).state)
    (h : ∀ irq s, P s → P (answer irq s).2.1) (start : Start) (s : σ) (hs : P s) :
    P (kickOff launch answer start s).1 :=
  answerAll_keeps h _ _ (hl start s hs)

theorem kickOff?_keeps {kick : Start → σ → σ × EngineActivity α} (hk : ∀ start s, P s → P (kick start s).1)
    (start? : Option Start) (s : σ) (hs : P s) : P (kickOff? kick start? s).1 := by
  cases start? with
  | none => exact hs
  | some start => exact hk start s hs

end

/-! ## Retirements in sequence -/

def Completed.report (d : Completed) : Retired := d.request.retiredOn d.channel

namespace TransferLedger

variable {l m n : TransferLedger}

theorem retire_cases {irq : UInt32} {done : Completed} (h : l.retire irq = .ok (done, m)) :
    l.scheduler.complete irq = .ok (done, m.scheduler) ∧ m.tickets = l.tickets ∧
      m.completions = l.completions.signal done.request.completion := by
  simp only [retire] at h
  split at h
  · cases h
  · rename_i d s hs
    cases h
    exact ⟨hs, rfl, rfl⟩

/-- an interrupt reports the request on the channel that it is bound to -/
theorem retire_report_iff (l : TransferLedger) (irq : UInt32) (x : Retired) :
    (l.retire irq).map (fun p => p.1.report) = .ok x ↔
      ∃ c r, l.scheduler.channelOf? irq = some c ∧ l.scheduler.running? c = some r ∧ x = r.retiredOn c := by
  constructor
  · intro h
    cases hd : l.retire irq with
    | error e => rw [hd] at h; cases h
    | ok p =>
      obtain ⟨hc, hr, -⟩ := Scheduler.complete_cases (retire_cases hd).1
      rw [hd] at h
      exact ⟨_, _, hc, hr, (Except.ok.inj h).symm⟩
  · rintro ⟨c, r, hc, hr, rfl⟩
    obtain ⟨done, s, hs, rfl, rfl⟩ := Scheduler.complete_of_running hc hr
    simp only [retire, hs]
    rfl

/-- one retirement after another, each for an interrupt of its own -/
inductive Retires : TransferLedger → List Completed → TransferLedger → Prop
  | nil (l : TransferLedger) : Retires l [] l
  | cons {irq : UInt32} {done : Completed} {ds : List Completed} {l m n : TransferLedger} :
      l.retire irq = .ok (done, m) → Retires m ds n → Retires l (done :: ds) n

theorem Retires.append {ds es : List Completed} (h : Retires l ds m) (h' : Retires m es n) :
    Retires l (ds ++ es) n := by
  induction h with
  | nil => exact h'
  | cons hd _ ih => exact .cons hd (ih h')

/-- retirements take from the queue and add nothing to it -/
theorem Retires.pending_le {ds : List Completed} (h : Retires l ds m) :
    m.scheduler.pending.length ≤ l.scheduler.pending.length := by
  induction h with
  | nil => exact Nat.le_refl _
  | cons hd _ ih =>
    have hp := (Scheduler.pending_of_complete (retire_cases hd).1).1
    rw [hp, List.length_tail] at ih
    omega

end TransferLedger

/-! ## Nested answers -/

section

variable {σ α : Type} (ledger : σ → TransferLedger) (report? : α → Option Retired)

/-- `t` comes of `s` by retirements: these are the starts that followed them, and these replies tell of them -/
def Settles (s t : σ) (starts : List Start) (replies : List α) : Prop :=
  ∃ ds, (ledger s).Retires ds (ledger t) ∧ starts = ds.filterMap Completed.next ∧
    (ds.map Completed.report).Perm (replies.filterMap report?)

variable {ledger report?}

theorem Settles.refl (s : σ) : Settles ledger report? s s [] [] :=
  ⟨[], .nil _, rfl, .nil⟩

theorem Settles.trans {s t u : σ} {ss ss' : List Start} {rs rs' : List α} (h : Settles ledger report? s t ss rs)
    (h' : Settles ledger report? t u ss' rs') : Settles ledger report? s u (ss ++ ss') (rs ++ rs') := by
  obtain ⟨ds, hr, rfl, hp⟩ := h
  obtain ⟨es, hr', rfl, hp'⟩ := h'
  refine ⟨ds ++ es, hr.append hr', List.filterMap_append.symm, ?_⟩
  rw [List.map_append, List.filterMap_append]
  exact hp.append hp'

theorem Settles.perm {s t : σ} {ss : List Start} {rs rs' : List α} (h : Settles ledger report? s t ss rs)
    (hp : rs.Perm rs') : Settles ledger report? s t ss rs' := by
  obtain ⟨ds, hr, hs, hd⟩ := h
  exact ⟨ds, hr, hs, hd.trans (hp.filterMap report?)⟩

theorem Settles.pending_le {s t : σ} {ss : List Start} {rs : List α} (h : Settles ledger report? s t ss rs) :
    (ledger t).scheduler.pending.length ≤ (ledger s).scheduler.pending.length := by
  obtain ⟨_, hr, -⟩ := h
  exact hr.pending_le

variable (ledger report?)

/-- the answer to an interrupt settles, while no more than `depth` requests wait -/
def AnswerSettles (depth : Nat) (answer : UInt32 → σ → α × σ × EngineActivity α) : Prop :=
  ∀ irq s, (ledger s).scheduler.pending.length ≤ depth →
    Settles ledger report? s (answer irq s).2.1 (answer irq s).2.2.starts
      ((answer irq s).1 :: (answer irq s).2.2.answers)

/-- what follows a start settles, while no more than `depth` requests wait -/
def KickSettles (depth : Nat) (kick : Start → σ → σ × EngineActivity α) : Prop :=
  ∀ start s, (ledger s).scheduler.pending.length ≤ depth →
    ∃ ss, (kick start s).2.starts = start :: ss ∧ Settles ledger report? s (kick start s).1 ss (kick start s).2.answers

variable {ledger report?} {depth : Nat} {answer : UInt32 → σ → α × σ × EngineActivity α}

theorem answerAll_settles (h : AnswerSettles ledger report? depth answer) (irqs : List UInt32) (s : σ)
    (hs : (ledger s).scheduler.pending.length ≤ depth) :
    Settles ledger report? s (answerAll answer irqs s).1 (answerAll answer irqs s).2.starts
      (answerAll answer irqs s).2.answers := by
  induction irqs generalizing s with
  | nil => exact .refl s
  | cons irq irqs ih =>
    have first := h irq s hs
    have rest := ih (answer irq s).2.1 (Nat.le_trans first.pending_le hs)
    have hstarts : (answerAll answer (irq :: irqs) s).2.starts =
        (answer irq s).2.2.starts ++ (answerAll answer irqs (answer irq s).2.1).2.starts := by
      simp [answerAll]
    have hanswers : (answerAll answer (irq :: irqs) s).2.answers =
        (answer irq s).2.2.answers ++ (answer irq s).1 :: (answerAll answer irqs (answer irq s).2.1).2.answers := by
      simp [answerAll]
    rw [hstarts, hanswers]
    exact (first.trans rest).perm List.perm_middle.symm

theorem kickOff_settles {launch : Start → σ → Launched σ} (hl : ∀ start s, ledger (launch start s).state = ledger s)
    (h : AnswerSettles ledger report? depth answer) : KickSettles ledger report? depth (kickOff launch answer) := by
  intro start s hs
  have hd : (ledger (launch start s).state).scheduler.pending.length ≤ depth := by rw [hl]; exact hs
  obtain ⟨ds, hr, hss, hp⟩ := answerAll_settles h (launch start s).raised (launch start s).state hd
  refine ⟨_, ?_, ds, hl start s ▸ hr, hss, ?_⟩
  · simp [kickOff]
  · simpa [kickOff] using hp

theorem kickOff?_settles {kick : Start → σ → σ × EngineActivity α} {start? : Option Start} {s : σ}
    (hk : start?.isSome → KickSettles ledger report? (ledger s).scheduler.pending.length kick) :
    ∃ ss, (kickOff? kick start? s).2.starts = start?.toList ++ ss ∧
      Settles ledger report? s (kickOff? kick start? s).1 ss (kickOff? kick start? s).2.answers := by
  cases start? with
  | none => exact ⟨[], rfl, .refl s⟩
  | some start => exact hk rfl start s (Nat.le_refl _)

/-- a retirement, and what follows the start of the request that takes over the channel -/
theorem Settles.retire {s t u : σ} {irq : UInt32} {done : Completed} {ss : List Start} {rs : List α}
    (hd : (ledger s).retire irq = .ok (done, ledger t)) (h : Settles ledger report? t u ss rs) {reply : α}
    (hreply : report? reply = some done.report) :
    Settles ledger report? s u (done.next.toList ++ ss) (reply :: rs) := by
  obtain ⟨ds, hr, rfl, hp⟩ := h
  refine ⟨done :: ds, .cons hd hr, ?_, ?_⟩
  · cases hn : done.next <;> simp [hn]
  · rw [List.map_cons, List.filterMap_cons_some hreply]
    exact hp.cons _

end

/-! ## Units -/

namespace DmaUnit

variable {ε : Type}

abbrev report? : Except Error Retired → Option Retired := Except.toOption

theorem completeWith_settles {kick : Start → DmaUnit ε → DmaUnit ε × EngineActivity (Except Error Retired)}
    (irq : UInt32) (u : DmaUnit ε)
    (hk : ∀ depth < u.scheduler.pending.length, KickSettles toTransferLedger report? depth kick) :
    Settles toTransferLedger report? u (completeWith kick irq u).2.1 (completeWith kick irq u).2.2.starts
      ((completeWith kick irq u).1 :: (completeWith kick irq u).2.2.answers) := by
  cases hd : u.toTransferLedger.retire irq with
  | error e =>
    simp only [completeWith, hd]
    exact ⟨[], .nil _, rfl, .refl _⟩
  | ok p =>
    obtain ⟨done, l⟩ := p
    obtain ⟨hpend, hnext⟩ := Scheduler.pending_of_complete (TransferLedger.retire_cases hd).1
    have hkick : done.next.isSome → KickSettles toTransferLedger report? l.scheduler.pending.length kick := fun hs => by
      have hne := List.length_pos_iff.2 (hnext.1 hs)
      exact hk _ (by rw [hpend, List.length_tail]; omega)
    obtain ⟨ss, hss, hset⟩ := kickOff?_settles (s := { u with toTransferLedger := l }) hkick
    simp only [completeWith, hd, hss]
    exact Settles.retire hd hset rfl

theorem completeWith_answer (kick : Start → DmaUnit ε → DmaUnit ε × EngineActivity (Except Error Retired))
    (irq : UInt32) (u : DmaUnit ε) :
    (completeWith kick irq u).1 = (u.toTransferLedger.retire irq).map fun p => p.1.report := by
  cases hd : u.toTransferLedger.retire irq <;> simp only [completeWith, hd] <;> rfl

variable [TransferEngine ε]

/-- an interrupt is answered with the retirement it reports, whatever starts after it -/
theorem complete_answer (irq : UInt32) (u : DmaUnit ε) :
    (complete irq u).1 = (u.toTransferLedger.retire irq).map fun p => p.1.report := by
  simp only [complete]
  cases u.scheduler.pending.length <;> exact completeWith_answer _ irq u

@[simp] theorem launch_ledger (start : Start) (u : DmaUnit ε) :
    (launch start u).state.toTransferLedger = u.toTransferLedger := rfl

theorem completeWithin_settles (depth : Nat) :
    AnswerSettles toTransferLedger report? depth (completeWithin (ε := ε) depth) := by
  induction depth with
  | zero => exact fun irq u hu => completeWith_settles irq u fun d hd => by omega
  | succ depth ih =>
    intro irq u hu
    refine completeWith_settles irq u fun d hd => ?_
    have hkick := kickOff_settles launch_ledger ih
    exact fun start v hv => hkick start v (by omega)

/-- **Answers settle.** The answer to an interrupt is a sequence of retirements, the starts that followed them, and the
replies that tell of them. -/
theorem complete_settles (depth : Nat) : AnswerSettles toTransferLedger report? depth (complete (ε := ε)) :=
  fun irq u _ => completeWithin_settles _ irq u (Nat.le_refl _)

/-- a submission is its own bookkeeping, then retirements -/
theorem submit_settles (r : Request) (u : DmaUnit ε) :
    ∃ ss, (submit r u).2.starts = (u.toTransferLedger.submit r).1.toList ++ ss ∧
      Settles toTransferLedger report? { u with toTransferLedger := (u.toTransferLedger.submit r).2 } (submit r u).1 ss
        (submit r u).2.answers :=
  kickOff?_settles fun _ => kickOff_settles launch_ledger (complete_settles _)

end DmaUnit
end BoardDriver

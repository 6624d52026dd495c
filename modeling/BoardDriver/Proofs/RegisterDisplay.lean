/-
The registers of the simulated controller show the transfer that it carries out.

The simulated board has one channel. Every start on it is written to BAR 0 before anything else can happen, whether the
request was submitted to an idle channel or has waited for an interrupt, and nothing else writes there but sessions. So
as long as no session does, BAR 0 holds the last start, which is that of the request on the channel. Simulated registers
mirror a file of zeros (`RegisterFile.Mirrors`), so what a start does to a file tells what it does to them.

- `RegisterTable.Simulates`: a simulated board with such registers behind BAR 0; `Simulates.read`, `Simulates.program`,
  `Simulates.guarded`: what is read there, and what a start and an access of a session do;
- `Device.Shows`: the registers hold the last of these starts; `Shows.launch`, `Moment.shows_after`, `shows_run`: a
  start, a command and a run keep it so;
- `OneChannel`: every start is on channel 0, so the last one is that of the request in flight;
- `Device.registers_show_transfer`: what the registers hold while a request is in flight.
-/
import BoardDriver.Proofs.BackendAccess
import BoardDriver.Proofs.BarMemory
import BoardDriver.Proofs.RegisterMirror
import BoardDriver.Proofs.SessionRoster

namespace BoardDriver

/-! ## Simulated registers -/

namespace BoardBackend

/-- simulated registers, and a window onto a file that they mirror -/
def MirroredBy (count : Nat) (b c : BoardBackend) : Prop :=
  ∃ f w, b = .simulated f ∧ c = .mapped w ∧ f.Mirrors count w

theorem agree_write (count : Nat) {offset : UInt32} (value : UInt32) (ha : offset.toNat % 4 = 0) :
    Action.Agree (MirroredBy count) (RegisterBackend.write offset value) (RegisterBackend.write offset value) := by
  rintro _ _ ⟨f, w, rfl, rfl, m⟩
  have agrees := RegisterFile.agree_write count value ha f w m
  exact ⟨agrees.result, agrees.quiet, _, _, rfl, rfl, agrees.state⟩

/-- a start does to simulated registers what it does to a file -/
theorem program_simulated {count : Nat} {f : RegisterFile} {w : MappedWindow} (m : f.Mirrors count w) (s : Start) :
    ∃ g, (Action.sequence (s.writes.map fun (offset, value) =>
        (RegisterBackend.write offset value : Action BoardBackend Unit)) (.simulated f)).state = .simulated g ∧
      g.Mirrors count (w.programmed s) := by
  have hagree := Action.agree_sequence (R := MirroredBy count)
    (f := fun v : UInt32 × UInt32 => RegisterBackend.write v.1 v.2) (g := fun v => RegisterBackend.write v.1 v.2)
    s.writes fun v hv => agree_write count v.2 (Start.mem_writes_range hv).1
  obtain ⟨g, v, hg, hv, hmirrors⟩ := (hagree _ _ ⟨f, w, rfl, rfl, m⟩).state
  have hwindow := MappedWindow.state_program s m.start
  rw [hwindow] at hv
  cases hv
  exact ⟨g, hg, hmirrors⟩

end BoardBackend

/-! ## The registers behind BAR 0 -/

namespace RegisterTable

variable {α : Type} {t u : RegisterTable BoardBackend} {w : MappedWindow}

/-- the table of a simulated board whose registers behind BAR 0 mirror the file -/
structure Simulates (w : MappedWindow) (t : RegisterTable BoardBackend) : Prop where
  mode : t.mode = .simulator
  bank : ∃ b f, t.banks[0]? = some b ∧ b.backend = some (.simulated f) ∧ b.size = f.size ∧ f.Mirrors 512 w

namespace Simulates

theorem of_eq (h : Simulates w t) (hmode : u.mode = t.mode) (hbank : u.banks[0]? = t.banks[0]?) : Simulates w u :=
  ⟨hmode.trans h.mode, hbank ▸ h.bank⟩

/-- other registers behind the same bank -/
theorem setBank {b : RegisterBank BoardBackend} {f g : RegisterFile} {v : MappedWindow} (h : Simulates w t)
    (hb : t.banks[0]? = some b) (hsize : b.size = f.size) (hf : f.Mirrors 512 w) (hg : g.Mirrors 512 v) :
    Simulates v (t.setBank 0 { b with backend := some (.simulated g) }) := by
  have hlt := (List.getElem?_eq_some_iff.1 hb).1
  refine ⟨h.mode, _, g, List.getElem?_set_self hlt, rfl, hsize.trans ?_, hg⟩
  rw [RegisterFile.size, RegisterFile.size, hf.size, hg.size]

/-- what a session reads at the beginning of a register -/
theorem read (h : Simulates w t) {offset : UInt32} (ha : offset.toNat % 4 = 0) (hin : offset.toNat < 2048) :
    (RegisterTable.read 0 offset t).result = .ok (w.file.word offset.toNat) := by
  obtain ⟨b, f, hb, hbackend, hsize, hf⟩ := h.bank
  have hbytes : b.size = 2048 := by
    rw [hsize, RegisterFile.size, hf.size]
    decide
  have hgranted : t.mode.Grants 0 .read := by
    rw [h.mode, ← Mode.permits_iff]
    decide
  have hadmits : t.Admits 0 .read offset b (.simulated f) := ⟨hb, hbackend, hgranted, hbytes ▸ hin⟩
  rw [RegisterTable.read, RegisterBank.read, guarded_of_admits _ hadmits]
  rcases hf.cases ha with ⟨hregister, -⟩ | ⟨-, hcheck⟩
  · have hreadable := (RegisterFile.allows_initial (w.file.word offset.toNat)).1
    simp only [RegisterBackend.read, BoardBackend.act, Action.on, RegisterFile.read, hregister, hreadable, if_true]
  · -- the file ends where the registers do
    have hfits := (w.check_eq_ok_iff offset).2 ⟨ha, by rw [hf.extent, registerBytes]; omega⟩
    rw [hfits] at hcheck
    cases hcheck

/-- the board's own engine goes past the guard -/
theorem program (h : Simulates w t) (s : Start) :
    ∃ o, t.onBank? 0 s.program = some o ∧ Simulates (w.programmed s) o.state := by
  obtain ⟨b, f, hb, hbackend, hsize, hf⟩ := h.bank
  obtain ⟨g, hg, hmirrors⟩ := BoardBackend.program_simulated hf s
  refine ⟨Action.on b (t.setBank 0) s.program, ?_, ?_⟩
  · simp only [onBank?, bank?, hb, Option.map_some]
  · simp only [Action.on, Start.program, RegisterBank.writeSequence, RegisterBank.onBackend, hbackend]
    rw [hg]
    exact h.setBank hb hsize hf hmirrors

/-- an access behind the guard goes to the registers of BAR 0, or it leaves them as they were -/
theorem guarded_cases (h : Simulates w t) (bar : Nat) (kind : AccessKind) (offset : UInt32)
    (x : Action BoardBackend α) :
    let o := guarded bar kind offset (RegisterBank.onBackend x) t
    Simulates w o.state ∨ bar = 0 ∧ ∃ f, o.result = (x (.simulated f)).result ∧
      ((x (.simulated f)).state = .simulated f → Simulates w o.state) := by
  intro o
  rcases t.refuses_or_admits bar kind offset with ⟨⟨e, he, -⟩, -⟩ | ⟨-, b, s, ha⟩
  · left
    rw [show o = _ from guarded_of_refuses _ he]
    exact h
  · rw [show o = _ from guarded_of_admits x ha]
    by_cases hbar : bar = 0
    · subst hbar
      obtain ⟨b', f, hb, hbackend, hsize, hf⟩ := h.bank
      cases ha.bank.symm.trans hb
      cases ha.backend.symm.trans hbackend
      refine .inr ⟨rfl, f, rfl, fun hsame => ?_⟩
      dsimp only
      rw [hsame]
      exact h.setBank hb hsize hf hf
    · exact .inl (h.of_eq rfl (List.getElem?_set_ne hbar))

/-- an access that changes no registers -/
theorem guarded (h : Simulates w t) {x : Action BoardBackend α}
    (hx : ∀ f, (x (.simulated f)).state = .simulated f) (bar : Nat) (kind : AccessKind) (offset : UInt32) :
    Simulates w (RegisterTable.guarded bar kind offset (RegisterBank.onBackend x) t).state := by
  rcases h.guarded_cases bar kind offset x with hsame | ⟨-, f, -, hkept⟩
  · exact hsame
  · exact hkept (hx f)

/-- an access to another BAR, or one that is refused -/
theorem guarded_of_refused (h : Simulates w t) {x : Action BoardBackend α}
    (hx : ∀ f e, (x (.simulated f)).result = .error e → (x (.simulated f)).state = .simulated f) {bar : Nat}
    {kind : AccessKind} {offset : UInt32}
    (hrefused : bar = 0 → ∃ e, (RegisterTable.guarded bar kind offset (RegisterBank.onBackend x) t).result = .error e) :
    Simulates w (RegisterTable.guarded bar kind offset (RegisterBank.onBackend x) t).state := by
  rcases h.guarded_cases bar kind offset x with hsame | ⟨hbar, f, hresult, hkept⟩
  · exact hsame
  · obtain ⟨e, he⟩ := hrefused hbar
    exact hkept (hx f e (hresult.symm.trans he))

end Simulates

/-- the access leaves BAR 0 of a simulated board as it is -/
def Preserves (x : Action (RegisterTable BoardBackend) α) : Prop :=
  ∀ t w, t.Simulates w → (x t).state.Simulates w

theorem preserves_read (bar : Nat) (offset : UInt32) : Preserves (read bar offset : Action _ UInt32) := by
  intro t w h
  refine h.guarded (fun f => ?_) bar .read offset
  simp only [RegisterBackend.read, BoardBackend.act, Action.on, RegisterFile.state_read]

theorem preserves_readRange (bar : Nat) (offset : UInt32) (count : Nat) : Preserves (readRange bar offset count) := by
  apply readRange_of_read (P := Preserves) (fun _ _ _ h => h) (fun _ _ _ h => h) ?bind (preserves_read bar)
  case bind =>
    intro _ _ x f hx hf t w h
    cases hr : (x t).result with
    | error e =>
      rw [Action.bind_of_error hr]
      exact hx t w h
    | ok a =>
      rw [Action.bind_of_ok hr]
      exact hf a _ w (hx t w h)

theorem simulates_write (h : t.Simulates w) {bar : Nat} {offset value : UInt32}
    (hrefused : bar = 0 → ∃ e, (write bar offset value t).result = .error e) :
    (write bar offset value t).state.Simulates w := by
  refine h.guarded_of_refused (fun f e he => ?_) hrefused
  exact congrArg Outcome.state (BoardBackend.write_of_error he)

theorem simulates_setMode (h : t.Simulates w) {bar : Nat} {offset mode : UInt32}
    (hrefused : bar = 0 → ∃ e, (setMode bar offset mode t).result = .error e) :
    (setMode bar offset mode t).state.Simulates w := by
  refine h.guarded_of_refused (fun f e he => ?_) hrefused
  exact congrArg BoardBackend.simulated (RegisterFile.state_setMode_of_error he)

theorem simulates_modify (h : t.Simulates w) {bar : Nat} {offset clear set : UInt32}
    (hrefused : bar = 0 → ∃ e, (modify bar offset clear set t).result = .error e) :
    (modify bar offset clear set t).state.Simulates w := by
  unfold modify at hrefused ⊢
  rw [RegisterBank.modify_eq] at hrefused ⊢
  exact h.guarded_of_refused (fun f e he => (BoardBackend.modify_of_error he).1) hrefused

end RegisterTable
/-! ## Commands -/

/-- the BAR whose registers the request would change -/
def SessionRequest.target? : SessionRequest → Option Nat
  | .write bar .. | .modify bar .. | .setMode bar .. => some bar
  | _ => none

namespace Device

variable {ε : Type} {d e : Device ε} {starts : List Start}

/-- a simulated device without an engine from outside, whose DMA registers hold the last of these starts -/
structure Shows (starts : List Start) (d : Device ε) : Prop where
  config : d.config.mode = .simulator
  engine : d.engine = none
  registers : ∃ w, d.table.Simulates w ∧
    ∀ s, starts.getLast? = some s → ∀ v ∈ s.writes, w.file.word v.1.toNat = v.2

namespace Shows

/-- the registers mirror the same file as before -/
theorem of_simulates (h : Shows starts d) (hfixed : Fixed d e)
    (htable : ∀ w, d.table.Simulates w → e.table.Simulates w) : Shows starts e := by
  obtain ⟨w, hw, hlast⟩ := h.registers
  exact ⟨hfixed.config ▸ h.config, hfixed.engine ▸ h.engine, w, htable w hw, hlast⟩

theorem of_eq (h : Shows starts d) (hfixed : Fixed d e) (htable : e.table = d.table) : Shows starts e :=
  h.of_simulates hfixed fun _ hw => htable ▸ hw

/-- what a session reads of the last start -/
theorem readRegister (h : Shows starts d) {s : Start} (hs : starts.getLast? = some s) {v : UInt32 × UInt32}
    (hv : v ∈ s.writes) : (d.readRegister 0 v.1).1 = .ok v.2 := by
  obtain ⟨w, hw, hlast⟩ := h.registers
  obtain ⟨haligned, -, hlt⟩ := Start.mem_writes_range hv
  rw [← hlast s hs v hv]
  exact hw.read haligned (by omega)

variable [TransferEngine ε]

/-- a start is written to the registers -/
theorem launch (h : Shows starts d) (s : Start) : Shows (starts ++ [s]) (Device.launch s d).state := by
  obtain ⟨w, hw, -⟩ := h.registers
  obtain ⟨o, ho, hprogrammed⟩ := hw.program s
  have hbar : d.config.mode.dmaBar = 0 := by rw [h.config]; rfl
  rw [launch_of_board h.engine, hbar, ho]
  refine ⟨h.config, h.engine, _, hprogrammed, fun s' hs' v hv => ?_⟩
  obtain rfl : s = s' := Option.some.inj (List.getLast?_concat.symm.trans hs')
  have hroom : 0x130 ≤ w.extent := by
    obtain ⟨_, _, -, -, -, hf⟩ := hw.bank
    rw [hf.extent, registerBytes]
    decide
  rw [MappedWindow.programmed, if_pos hroom]
  exact s.word_programmed w.file v hv

theorem replayStep (h : Shows starts d) (s : DeviceStep) : Shows (starts ++ s.start?.toList) (d.replayStep s) := by
  cases s with
  | started start result => exact h.launch start
  | raised irq answer =>
    rw [show (EngineStep.raised irq answer : DeviceStep).start?.toList = [] from rfl, List.append_nil]
    cases answer with
    | error e => exact h
    | ok outcome => cases outcome <;> exact h.of_eq ⟨rfl, rfl, rfl⟩ rfl

theorem replay (h : Shows starts d) (steps : List DeviceStep) :
    Shows (starts ++ steps.filterMap EngineStep.start?) (d.replay steps) := by
  induction steps generalizing d starts with
  | nil => rwa [List.filterMap_nil, List.append_nil]
  | cons s steps ih =>
    have hrest := ih (h.replayStep s)
    have hsplit : (s :: steps).filterMap EngineStep.start? = s.start?.toList ++ steps.filterMap EngineStep.start? := by
      rw [List.filterMap_cons]
      cases s.start? <;> rfl
    rw [hsplit, ← List.append_assoc]
    exact hrest

end Shows

variable [TransferEngine ε]

/-- a request that asks for no access to registers leaves them alone, short of having the engine run -/
theorem table_serve_of_not_isAccess (s : Session) {request : SessionRequest} (hengine : request.drivesEngine = false)
    (haccess : request.isAccess = false) (d : Device ε) : (serve s request d).2.1.table = d.table := by
  cases request with
  | submit | simulate => cases hengine
  | read | readRange | write | modify | setMode => cases haccess
  | setEventMask mask =>
    simp only [serve, setEventMask, modifySubscriber]
    split <;> rfl
  | setForwardingMask mask =>
    simp only [serve, setForwardingMask, modifySubscriber]
    split <;> rfl
  | dequeue =>
    simp only [serve, dequeueEvent]
    split <;> rfl
  | drain =>
    simp only [serve, drainEvents]
    split <;> rfl
  | poll | close => rfl
  | reset =>
    simp only [serve, reply, resetTransfers]
    split <;> rfl
  | setupMemory size =>
    simp only [serve, reply, setupMemory]
    split <;> rfl
  | transferMemory direction offset buffer =>
    simp only [serve, reply, transferMemory]
    split <;> rfl

/-- an access to registers leaves those of BAR 0 as they were, unless it was meant for them and not refused -/
theorem simulates_serve (s : Session) {request : SessionRequest} (hengine : request.drivesEngine = false)
    {w : MappedWindow} (h : d.table.Simulates w)
    (hrefused : request.target? = some 0 → ∃ e, (serve s request d).1 = .error e) :
    (serve s request d).2.1.table.Simulates w := by
  -- an error in the answer is one of the access
  have herror : ∀ {α : Type} {f : α → Reply} {x : Except Error α}, (∃ e, x.map f = .error e) → ∃ e, x = .error e := by
    rintro α f x ⟨e, he⟩
    cases x with
    | error e => exact ⟨e, rfl⟩
    | ok a => cases he
  cases haccess : request.isAccess with
  | false =>
    rw [table_serve_of_not_isAccess s hengine haccess]
    exact h
  | true =>
    cases request with
    | read bar offset => exact RegisterTable.preserves_read bar offset _ w h
    | readRange bar offset count => exact RegisterTable.preserves_readRange bar offset count _ w h
    | write bar offset value =>
      refine RegisterTable.simulates_write h fun hbar => herror (hrefused ?_)
      rw [hbar]
      rfl
    | modify bar offset clear set =>
      refine RegisterTable.simulates_modify h fun hbar => herror (hrefused ?_)
      rw [hbar]
      rfl
    | setMode bar offset mode =>
      refine RegisterTable.simulates_setMode h fun hbar => herror (hrefused ?_)
      rw [hbar]
      rfl
    | _ => cases haccess

namespace Moment

/-- whether a session has written a register of the BAR, modified one or changed its mode: an open session asked for it
and was not refused -/
def alters (bar : Nat) (m : Moment ε) : Bool :=
  match m.command with
  | .session number request => (m.before.session? number).isSome && request.target? == some bar && m.answer.isOk
  | _ => false

variable (m : Moment ε)

/-- an open session that asked for an access was refused it -/
theorem exists_error_of_alters {s : Session} {number : Nat} {request : SessionRequest} {bar : Nat}
    (hm : m.command = .session number request) (hs : m.before.session? number = some s)
    (h : m.alters bar = false) (htarget : request.target? = some bar) :
    ∃ e, (serve s request m.before).1 = .error e := by
  have hanswer : m.answer = (serve s request m.before).1 := by
    rw [answer, hm]
    simp only [step, hs]
  cases hr : (serve s request m.before).1 with
  | error e => exact ⟨e, rfl⟩
  | ok reply =>
    rw [alters, hm] at h
    dsimp only at h
    rw [hs, htarget, hanswer, hr] at h
    simp [Except.isOk, Except.toBool] at h

/-- what a command does of itself leaves the registers as they are -/
theorem shows_own (h : Shows starts m.before) (hspared : m.alters 0 = false) : Shows starts m.own := by
  have fixed := m.own_fixed
  rcases m.own_cases with ho | ho | ⟨number, s, request, hm, hs, hengine, ho⟩ | ⟨-, ho⟩ | ⟨on, ho⟩ | ho | ho
  · rw [ho]
    exact h
  · exact h.of_eq fixed (by rw [ho]; rfl)
  · refine h.of_simulates fixed fun w hw => ?_
    rw [ho]
    exact simulates_serve s hengine hw (m.exists_error_of_alters hm hs hspared)
  all_goals exact h.of_eq fixed (by rw [ho]; rfl)

theorem shows_after (h : Shows starts m.before) (hspared : m.alters 0 = false) :
    Shows (starts ++ m.activity.starts) m.after := by
  have hreplays := m.replays
  have hshows := (m.shows_own h hspared).replay m.steps
  rw [starts_steps] at hshows
  rw [Replays] at hreplays
  rw [hreplays]
  exact hshows.of_eq ⟨rfl, rfl, rfl⟩ rfl

end Moment

/-- after a run the registers hold the last start of the run -/
theorem shows_run (h : Shows [] d) (commands : List Command)
    (hspared : ∀ m ∈ d.moments commands, m.alters 0 = false) :
    Shows ((d.moments commands).flatMap fun m => m.activity.starts) (d.run commands).1 := by
  induction commands using List.reverseRecOn with
  | nil => exact h
  | append_singleton commands c ih =>
    rw [moments_snoc, List.forall_mem_append] at hspared
    rw [run_snoc, moments_snoc, List.flatMap_append, List.flatMap_singleton]
    exact Moment.shows_after ⟨(d.run commands).1, c⟩ (ih hspared.1) (hspared.2 _ (List.mem_singleton_self _))

end Device
/-! ## One channel -/

/-- all is on channel 0, the only one, and requests are started in order -/
structure OneChannel (s₀ : Scheduler) (x : TransferLedger × History) : Prop where
  inStep : InStep s₀ x
  single : s₀.capacity = 1
  started : ∀ s ∈ x.2.starts, s.channel = 0
  ordered : ∃ left, Ordered x left

namespace OneChannel

variable {s₀ : Scheduler} {x y : TransferLedger × History}

/-- the last start is that of the request on the channel -/
theorem getLast?_starts (o : OneChannel s₀ x) {r : Request} (hr : x.1.scheduler.running? 0 = some r) :
    x.2.starts.getLast? = some (r.startOn 0) := by
  obtain ⟨left, hordered⟩ := o.ordered
  have hall : x.2.starts.filter (fun s => s.channel == 0) = x.2.starts :=
    List.filter_eq_self.2 fun s hs => beq_iff_eq.2 (o.started s hs)
  have hcurrent := hordered.current 0 r hr
  rwa [lastStart?, hall] at hcurrent

theorem eq_zero (o : OneChannel s₀ x) {c : Nat} (hc : c < x.1.scheduler.capacity) : c = 0 := by
  rw [o.inStep.capacity, o.single] at hc
  exact Nat.lt_one_iff.1 hc

/-- a start is on a channel that there is -/
theorem started_of_posts (o : OneChannel s₀ x) (p : Posts x y) : ∀ s ∈ y.2.starts, s.channel = 0 := by
  cases p with
  | @submit l h r hr =>
    intro s hs
    rcases List.mem_append.1 hs with hs | hs
    · exact o.started s hs
    · cases hl : Bits.lowest? l.scheduler.idle with
      | none =>
        rw [TransferLedger.submit, Scheduler.submit_of_busy hl] at hs
        cases hs
      | some c =>
        rw [TransferLedger.submit, Scheduler.submit_of_idle hl] at hs
        rw [List.mem_singleton.1 hs]
        exact o.eq_zero (o.inStep.sound.of_lowest? hl).1
  | @retire l m h irq done hd =>
    intro s hs
    obtain ⟨hc, -, -⟩ := TransferLedger.retire_cases hd
    obtain ⟨-, hr, -⟩ := Scheduler.complete_cases hc
    rcases List.mem_append.1 hs with hs | hs
    · exact o.started s hs
    · rw [Scheduler.next_complete hc] at hs
      obtain ⟨q, -, rfl⟩ := Option.map_eq_some_iff.1 (Option.mem_toList.1 hs)
      exact o.eq_zero (Scheduler.lt_capacity_of_running? hr)
  | _ => exact o.started

theorem posts (o : OneChannel s₀ x) (p : Posts x y) : OneChannel s₀ y := by
  obtain ⟨left, hordered⟩ := o.ordered
  obtain ⟨later, hlater⟩ := ordered_of_posts x y p o.inStep.sound hordered
  exact ⟨inStep_of_posts x y p o.inStep, o.single, o.started_of_posts p, _, hlater⟩

theorem posts_star (o : OneChannel s₀ x) (p : Relation.ReflTransGen Posts x y) : OneChannel s₀ y := by
  induction p with
  | refl => exact o
  | tail _ p ih => exact ih.posts p

end OneChannel

namespace Device

variable {ε : Type}

/-! ## Devices that were built -/

/-- the simulated board has one channel -/
theorem oneChannel_of_build {files : HostFiles} {config : Config} {engine : Option ε} {d : Device ε}
    (hbuild : build files config engine = .ok d) (hmode : config.mode = .simulator) (tickets : TicketCounter)
    (completions : CompletionTable) (elapsed : Ticket → Duration) :
    OneChannel (.fresh 1 1#32) ((d.onHost tickets completions elapsed).ledger, {}) := by
  obtain ⟨table, bank, scheduler, dispatcher, -, -, -, hscheduler, -, rfl⟩ := build_cases hbuild
  obtain ⟨report, hreport, hscheduler⟩ := exists_ok_of_bind hscheduler
  rw [hmode] at hreport
  cases hreport
  obtain ⟨_, -, hscheduler⟩ := exists_ok_of_bind hscheduler
  cases hscheduler
  have hfresh : OneChannel (.fresh 1 1#32) (Client.fresh 1 1#32 () tickets completions).books :=
    ⟨Client.inStep_fresh 1 1#32 () tickets completions, rfl, fun s hs => absurd hs List.not_mem_nil, [],
      Client.ordered_fresh 1 1#32 () tickets completions⟩
  exact hfresh.posts (.bind _ _ config.irqBase)

/-- and fresh registers behind BAR 0 -/
theorem shows_of_build {files : HostFiles} {config : Config} {d : Device ε} (hbuild : build files config none = .ok d)
    (hmode : config.mode = .simulator) : Shows [] d := by
  obtain ⟨table, bank, scheduler, dispatcher, -, htable, -, -, -, rfl⟩ := build_cases hbuild
  obtain ⟨backend?, hselect, htablemode, hbank⟩ := openBanks_cases htable
  have hsimulated : BoardBackend.select files config 0 = .ok (some (.simulated (.fresh 0 512))) := by
    rw [BoardBackend.select, hmode]
    rfl
  rw [hsimulated] at hselect
  cases hselect
  have hmirrors := RegisterFile.Mirrors.fresh 0 512 ""
  exact ⟨hmode, rfl, _, ⟨htablemode.trans hmode, _, _, hbank, rfl, rfl, hmirrors⟩, fun s hs => by cases hs⟩

variable [TransferEngine ε]

/-- a request is made by a submission, which is answered with its ticket -/
theorem Moment.exists_submit_of_made? {m : Moment ε} {r : Request} (h : m.made? = some r) :
    ∃ number direction system device length watched handle,
      m.command = .session number (.submit direction system device length watched) ∧
      m.answer = .ok (.submitted r.ticket handle) ∧ r.descriptor = .between direction system device length := by
  obtain ⟨d, c⟩ := m
  cases c with
  | session number request =>
    cases request with
    | submit direction system device length watched =>
      obtain ⟨s, hs, hr⟩ := Option.bind_eq_some_iff.1 h
      by_cases hlength : length = 0
      · rw [if_pos hlength] at hr
        cases hr
      · rw [if_neg hlength] at hr
        cases hr
        refine ⟨number, direction, system, device, length, watched,
          (d.ledger.newRequest (.between direction system device length) s.id watched).2.1, rfl, ?_, ?_⟩
        · simp only [answer, step, show d.session? number = some s from hs, serve, replyWith, submitTransfer,
            if_neg hlength]
          rfl
        · cases watched <;> rfl
    | _ => cases h
  | _ => cases h

/-- **The registers show the transfer in flight.** For every simulated device that was built with its own engine and
every run of commands in which no session alters a register of BAR 0: a request that channel 0 carries out after the run
was submitted in the run, and BAR 0 holds, for any session to read,
- the channel, which is 0, and 1 in the start register;
- its source and its destination, which are the system's and the device's address for a transfer down, and the other
way round for one up, as they were submitted;
- the value of its direction, and its length. -/
theorem registers_show_transfer {files : HostFiles} {config : Config} {d : Device ε}
    (hbuild : build files config none = .ok d) (hmode : config.mode = .simulator) (tickets : TicketCounter)
    (completions : CompletionTable) (elapsed : Ticket → Duration) (commands : List Command)
    (hspared : ∀ m ∈ (d.onHost tickets completions elapsed).moments commands, m.alters 0 = false) :
    let host := d.onHost tickets completions elapsed
    let e := (host.run commands).1
    ∀ r, e.ledger.scheduler.running? 0 = some r →
      ∃ m ∈ host.moments commands, ∃ number direction system device length watched handle,
        m.made? = some r ∧ m.command = .session number (.submit direction system device length watched) ∧
        m.answer = .ok (.submitted r.ticket handle) ∧
        (e.readRegister 0 DmaRegister.channel).1 = .ok 0 ∧
        (e.readRegister 0 DmaRegister.source).1 = .ok (if direction = .down then system else device) ∧
        (e.readRegister 0 DmaRegister.destination).1 = .ok (if direction = .down then device else system) ∧
        (e.readRegister 0 DmaRegister.direction).1 = .ok direction.registerValue ∧
        (e.readRegister 0 DmaRegister.length).1 = .ok length ∧
        (e.readRegister 0 DmaRegister.start).1 = .ok 1 := by
  intro host e r hr
  obtain ⟨h, hposts, hadds⟩ := run_posts host commands {}
  have hone : OneChannel (.fresh 1 1#32) (e.ledger, h) :=
    (oneChannel_of_build hbuild hmode tickets completions elapsed).posts_star hposts
  -- the last start of the run is that of the request
  have hlast := hone.getLast?_starts hr
  rw [hadds.starts, show ({} : History).starts = [] from rfl, List.nil_append] at hlast
  have hfresh := shows_of_build hbuild hmode
  have hshows := shows_run (d := host) ⟨hfresh.config, hfresh.engine, hfresh.registers⟩ commands hspared
  have hread : ∀ v ∈ (r.startOn 0).writes, (e.readRegister 0 v.1).1 = .ok v.2 := fun v hv =>
    hshows.readRegister hlast hv
  simp only [Start.writes, List.forall_mem_cons] at hread
  obtain ⟨hchannel, hsource, hdestination, hdirection, hlength, hstart, -⟩ := hread
  -- the request is one of those made in the run
  obtain ⟨s₀, left, gone, g, hkept, hmade⟩ := kept_run hbuild tickets completions elapsed commands
  have hcreated : r ∈ g.created := hkept.accounted.created_of_submitted (hkept.accounted.submitted_of_running hr)
  rw [hmade.created] at hcreated
  obtain ⟨m, hm, hr⟩ := List.mem_filterMap.1 hcreated
  obtain ⟨number, direction, system, device, length, watched, handle, hcommand, hanswer, hdescriptor⟩ :=
    Moment.exists_submit_of_made? hr
  refine ⟨m, hm, number, direction, system, device, length, watched, handle, hr, hcommand, hanswer, hchannel, ?_⟩
  rw [show (r.startOn 0).descriptor = .between direction system device length from hdescriptor]
    at hsource hdestination hdirection hlength
  cases direction with
  | down => exact ⟨hsource, hdestination, hdirection, hlength, hstart⟩
  | up => exact ⟨hsource, hdestination, hdirection, hlength, hstart⟩

/-- a transfer up waits for one down; meanwhile a register of BAR 1 is written, and BAR 0 is missed by one register;
then the interrupt of the first transfer is raised and its session closes -/
def promotedWhileWritten : List Command :=
  [.openSession, .openSession, .session 0 (.submit .down 0x1000 0x2000 64 false),
   .session 1 (.submit .up 0x3000 0x4000 128 true), .session 0 (.write 1 0x12C 7), .session 1 (.write 0 0x800 7),
   .session 1 (.simulate 1), .session 0 .close]

/-- the registers show the transfer up, with the device's address as its source -/
theorem registers_show_transfer_promotedWhileWritten :
    let host := simulatorBoard.onHost {} {} fun _ => ⟨0⟩
    let e := (host.run promotedWhileWritten).1
    (∀ m ∈ host.moments promotedWhileWritten, m.alters 0 = false) ∧
      (e.ledger.scheduler.running? 0).map Request.ticket = some ⟨2⟩ ∧
      (e.readRegister 0 DmaRegister.source).1 = .ok 0x4000 ∧
      (e.readRegister 0 DmaRegister.destination).1 = .ok 0x3000 ∧
      (e.readRegister 0 DmaRegister.direction).1 = .ok 1 ∧ (e.readRegister 0 DmaRegister.length).1 = .ok 128 := by
  intro host e
  have hspared : ∀ m ∈ host.moments promotedWhileWritten, m.alters 0 = false := by decide +kernel
  have hticket : (e.ledger.scheduler.running? 0).map Request.ticket = some ⟨2⟩ := by decide +kernel
  obtain ⟨r, hr, hsecond⟩ := Option.map_eq_some_iff.1 hticket
  simp only [e, host] at hr
  obtain ⟨m, hm, number, direction, system, device, length, watched, handle, hmade, hcommand, hanswer, -, hsource,
      hdestination, hdirection, hlength, -⟩ :=
    registers_show_transfer build_simulatorBoard rfl {} {} (fun _ => ⟨0⟩) promotedWhileWritten hspared r hr
  -- only one command was answered with this ticket
  have hone : ∀ m ∈ host.moments promotedWhileWritten, m.made?.map Request.ticket = some ⟨2⟩ →
      m.command = .session 1 (.submit .up 0x3000 0x4000 128 true) := by decide +kernel
  have hsubmit := hone m hm (by rw [hmade, Option.map_some, hsecond])
  rw [hcommand] at hsubmit
  cases hsubmit
  exact ⟨hspared, hticket, hsource, hdestination, hdirection, hlength⟩

end Device
end BoardDriver

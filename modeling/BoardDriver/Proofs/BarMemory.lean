/-
What a PCIe board's sessions can do to the memory behind BAR 0: nothing but have transfers started.

User space may read BAR 0 and choose which of its accesses are reported; it may not write there. The board's own engine
goes past the guard, but it writes the six DMA registers only, with what belongs to the transfer that it starts.

- `Moment.maps_own`: what a command does of itself leaves the window as it is;
- `Maps.launch`: a start writes the registers, or nothing if an engine was given from outside or the window is too
  short;
- `maps_run`: the window after a run is what the starts of the run, in order, made of it;
- `MappedWindow.foldl_started`: what that comes to, byte by byte.
-/
import BoardDriver.Proofs.DeviceHistory
import BoardDriver.Proofs.MappedMemory

namespace BoardDriver

namespace MappedWindow

/-- the window after a start, whether the board's own engine carries it out or another one -/
def started (byBoard : Bool) (w : MappedWindow) (s : Start) : MappedWindow :=
  if byBoard then w.programmed s else w

/-- a start does not move the window -/
theorem place_started (w : MappedWindow) (byBoard : Bool) (s : Start) :
    (w.started byBoard s).start = w.start ∧ (w.started byBoard s).extent = w.extent := by
  unfold started programmed
  split
  · split <;> exact ⟨rfl, rfl⟩
  · exact ⟨rfl, rfl⟩

theorem started_cases (byBoard : Bool) (w : MappedWindow) (s : Start) :
    (w.started byBoard s).file = s.programmed w.file ∧ byBoard = true ∧ 0x130 ≤ w.extent ∨
      w.started byBoard s = w ∧ ¬ (byBoard = true ∧ 0x130 ≤ w.extent) := by
  unfold started programmed
  cases byBoard with
  | false => exact .inr ⟨rfl, by simp⟩
  | true =>
    by_cases hroom : 0x130 ≤ w.extent
    · refine .inl ⟨?_, rfl, hroom⟩
      simp only [if_true, if_pos hroom]
    · refine .inr ⟨?_, fun h => hroom h.2⟩
      simp only [if_true, if_neg hroom]

theorem place_foldl_started (w : MappedWindow) (byBoard : Bool) (starts : List Start) :
    (starts.foldl (started byBoard) w).start = w.start ∧ (starts.foldl (started byBoard) w).extent = w.extent := by
  induction starts generalizing w with
  | nil => exact ⟨rfl, rfl⟩
  | cons s starts ih =>
    obtain ⟨hstart, hextent⟩ := ih (w.started byBoard s)
    exact ⟨hstart.trans (w.place_started byBoard s).1, hextent.trans (w.place_started byBoard s).2⟩

/-- starts change nothing outside the DMA registers, and these hold what the last start wrote, if any start wrote -/
theorem foldl_started (w : MappedWindow) (byBoard : Bool) (starts : List Start) :
    let m := (starts.foldl (started byBoard) w).file
    m.length = w.file.length ∧
    (∀ i, ¬ (0x118 ≤ i ∧ i < 0x130) → m.byte i = w.file.byte i) ∧
    (m = w.file ∨ ∃ s, starts.getLast? = some s ∧ ∀ v ∈ s.writes, m.word v.1.toNat = v.2) := by
  induction starts using List.reverseRecOn with
  | nil => exact ⟨rfl, fun _ _ => rfl, .inl rfl⟩
  | append_singleton starts s ih =>
    obtain ⟨hlength, hbytes, hwords⟩ := ih
    simp only [List.foldl_append, List.foldl_cons, List.foldl_nil, List.getLast?_concat]
    rcases started_cases byBoard (starts.foldl (started byBoard) w) s with ⟨hfile, -, -⟩ | ⟨hsame, hno⟩
    · rw [hfile]
      refine ⟨?_, fun i hi => ?_, .inr ⟨s, rfl, Start.word_programmed s _⟩⟩
      · rw [Start.length_programmed, hlength]
      · rw [Start.byte_programmed_of_outside s _ hi, hbytes i hi]
    · rw [hsame]
      refine ⟨hlength, hbytes, .inl ?_⟩
      -- no start of the run writes anything
      rw [(w.place_foldl_started byBoard starts).2] at hno
      have hnone : ∀ (l : List Start), l.foldl (started byBoard) w = w := by
        intro l
        induction l with
        | nil => rfl
        | cons s l ih =>
          rcases started_cases byBoard w s with ⟨-, hboard, hroom⟩ | ⟨hsame, -⟩
          · exact absurd ⟨hboard, hroom⟩ hno
          · rw [List.foldl_cons, hsame, ih]
      rw [hnone]

end MappedWindow

namespace Device

variable {ε : Type}

/-- the memory behind a BAR that is mapped -/
def contents? (d : Device ε) (bar : Nat) : Option Memory := (d.table.window? bar).map MappedWindow.file

/-- a PCIe device with this window behind BAR 0, whose transfers the board's own engine starts or another one -/
structure Maps (byBoard : Bool) (w : MappedWindow) (d : Device ε) : Prop where
  config : d.config.mode = .pcie
  mode : d.table.mode = .pcie
  engine : d.engine.isNone = byBoard
  window : d.table.window? 0 = some w

namespace Maps

variable {byBoard : Bool} {w : MappedWindow} {d e : Device ε}

theorem contents? (m : Maps byBoard w d) : d.contents? 0 = some w.file := by
  rw [Device.contents?, m.window]
  rfl

theorem of_eq (m : Maps byBoard w d) (h : Fixed d e) (ht : e.table = d.table) : Maps byBoard w e :=
  ⟨h.config ▸ m.config, ht ▸ m.mode, h.engine ▸ m.engine, ht ▸ m.window⟩

/-- a guarded access of a session -/
theorem of_spares {α : Type} (m : Maps byBoard w d) {x : Action (RegisterTable BoardBackend) α}
    (hx : RegisterTable.Spares x) (h : Fixed d e) (ht : e.table = (x d.table).state) : Maps byBoard w e := by
  obtain ⟨hmode, hwindow⟩ := hx d.table w m.mode m.window
  exact ⟨h.config ▸ m.config, ht ▸ hmode, h.engine ▸ m.engine, ht ▸ hwindow⟩

variable [TransferEngine ε]

/-- a start writes the DMA registers, or leaves the window alone -/
theorem launch (m : Maps byBoard w d) (hstart : w.start = 0) (s : Start) :
    Maps byBoard (w.started byBoard s) (launch s d).state := by
  cases h : d.engine with
  | some engine =>
    have hboard : byBoard = false := by rw [← m.engine, h]; rfl
    subst hboard
    rw [launch_of_engine h]
    exact ⟨m.config, m.mode, rfl, m.window⟩
  | none =>
    have hboard : byBoard = true := by rw [← m.engine, h]; rfl
    subst hboard
    have hbar : d.config.mode.dmaBar = 0 := by rw [m.config]; rfl
    obtain ⟨o, ho, hmode, hwindow⟩ := RegisterTable.window?_program m.window hstart s
    rw [launch_of_board h, hbar, ho]
    exact ⟨m.config, hmode.trans m.mode, by simp only [adopt, h, Option.isNone_none], hwindow⟩

theorem replayStep (m : Maps byBoard w d) (hstart : w.start = 0) (s : DeviceStep) :
    Maps byBoard (s.start?.toList.foldl (MappedWindow.started byBoard) w) (d.replayStep s) := by
  cases s with
  | started start result => exact m.launch hstart start
  | raised irq answer =>
    cases answer with
    | error e => exact m
    | ok outcome => cases outcome <;> exact m.of_eq ⟨rfl, rfl, rfl⟩ rfl

theorem replay (m : Maps byBoard w d) (hstart : w.start = 0) (steps : List DeviceStep) :
    Maps byBoard ((steps.filterMap EngineStep.start?).foldl (MappedWindow.started byBoard) w) (d.replay steps) := by
  induction steps generalizing d w with
  | nil => exact m
  | cons s steps ih =>
    have first := m.replayStep hstart s
    cases hs : s.start? with
    | none =>
      rw [hs] at first
      rw [List.filterMap_cons_none hs]
      exact ih first hstart
    | some start =>
      rw [hs] at first
      rw [List.filterMap_cons_some hs]
      exact ih first ((w.place_started byBoard start).1.trans hstart)

end Maps

/-! ## Commands -/

variable [TransferEngine ε]

/-- whatever a session asks for, short of having the engine run -/
theorem serve_maps {byBoard : Bool} {w : MappedWindow} {d : Device ε} (m : Maps byBoard w d) (s : Session)
    {request : SessionRequest} (h : request.drivesEngine = false) : Maps byBoard w (serve s request d).2.1 := by
  have fixed := (serve_fixed s h d).1
  rcases serve_cases s h d with ⟨_, _, _, he⟩ | ⟨_, x, hx, he⟩ | ⟨-, _, _, he⟩
  · exact m.of_eq fixed (by rw [he])
  · exact m.of_spares hx.spares fixed (by rw [he]; rfl)
  · exact m.of_eq fixed (by rw [he])

namespace Moment

variable {byBoard : Bool} {w : MappedWindow} (m : Moment ε)

/-- what a command does of itself leaves the window as it is -/
theorem maps_own (h : Maps byBoard w m.before) : Maps byBoard w m.own := by
  have fixed := m.own_fixed
  rcases m.own_cases with ho | ho | ⟨_, s, request, -, -, hengine, ho⟩ | ⟨-, ho⟩ | ⟨on, ho⟩ | ho | ho
  · rw [ho]
    exact h
  · exact h.of_eq fixed (by rw [ho]; rfl)
  · rw [ho]
    exact serve_maps h s hengine
  all_goals exact h.of_eq fixed (by rw [ho]; rfl)

/-- the starts that the engine is told for a command are those of its activity -/
theorem starts_steps : m.steps.filterMap EngineStep.start? = m.activity.starts := by
  simp only [steps, EngineActivity.starts, List.filterMap_append, List.filterMap_map]
  cases m.raised? <;> simp [EngineStep.start?]

theorem maps_after (h : Maps byBoard w m.before) (hstart : w.start = 0) :
    Maps byBoard (m.activity.starts.foldl (MappedWindow.started byBoard) w) m.after := by
  have hreplays := m.replays
  have hmaps := (m.maps_own h).replay hstart m.steps
  rw [starts_steps] at hmaps
  rw [Replays] at hreplays
  rw [hreplays]
  exact hmaps.of_eq ⟨rfl, rfl, rfl⟩ rfl

end Moment

/-- the window after a run is what the starts of the run made of it -/
theorem maps_run {byBoard : Bool} {w : MappedWindow} {d : Device ε} (h : Maps byBoard w d) (hstart : w.start = 0)
    (commands : List Command) :
    Maps byBoard (((d.moments commands).flatMap fun m => m.activity.starts).foldl (MappedWindow.started byBoard) w)
      (d.run commands).1 := by
  induction commands using List.reverseRecOn with
  | nil => exact h
  | append_singleton commands c ih =>
    rw [run_snoc, moments_snoc, List.flatMap_append, List.flatMap_singleton, List.foldl_append]
    exact Moment.maps_after ⟨(d.run commands).1, c⟩ ih ((w.place_foldl_started byBoard _).1.trans hstart)

/-! ## Devices that were built -/

theorem start_of_ofFile {files : HostFiles} {path : String} {offset : Nat} {length : Option Nat} {w : MappedWindow}
    (h : MappedWindow.ofFile files path offset length = .ok w) : w.start = offset := by
  unfold MappedWindow.ofFile at h
  cases hfile : files path with
  | none => rw [hfile] at h; cases h
  | some entry =>
    rw [hfile] at h
    dsimp only at h
    split at h
    · cases h
    · cases entry with
      | closed fault => cases h
      | file contents =>
        dsimp only at h
        split at h
        · cases h
        · split at h
          · cases h
          · cases h
            rfl

/-- a backend of a PCIe board is a window onto the whole of a resource file -/
theorem mapped_of_select {files : HostFiles} {config : Config} (hmode : config.mode = .pcie) {bar : Nat}
    {backend : BoardBackend} (h : BoardBackend.select files config bar = .ok (some backend)) :
    ∃ w, backend = .mapped w ∧ w.start = 0 := by
  unfold BoardBackend.select at h
  rw [hmode] at h
  cases ha : config.pcieAddress with
  | none => rw [ha] at h; cases h
  | some address =>
    rw [ha] at h
    dsimp only at h
    cases hw : MappedWindow.ofFile files (BoardBackend.resourcePath address bar) 0 none with
    | ok w =>
      rw [hw] at h
      cases h
      exact ⟨w, rfl, start_of_ofFile hw⟩
    | error e => rw [hw] at h; cases e <;> cases h

/-- BAR 0 is the first one to be opened -/
theorem openBanks_cases {files : HostFiles} {config : Config} {table : RegisterTable BoardBackend}
    (h : openBanks files config = .ok table) :
    ∃ backend?, BoardBackend.select files config 0 = .ok backend? ∧ table.mode = config.mode ∧
      table.banks[0]? = some (RegisterBank.ofBackend 0 backend?) := by
  obtain ⟨banks, hbanks, htable⟩ := exists_ok_of_bind h
  cases htable
  rw [show List.range barCount = 0 :: [1, 2, 3, 4, 5] from rfl, List.mapM_cons] at hbanks
  obtain ⟨first, hfirst, hbanks⟩ := exists_ok_of_bind hbanks
  obtain ⟨rest, -, hbanks⟩ := exists_ok_of_bind hbanks
  cases hbanks
  cases hselect : BoardBackend.select files config 0 with
  | error e => rw [hselect] at hfirst; cases hfirst
  | ok backend? =>
    rw [hselect] at hfirst
    cases hfirst
    exact ⟨backend?, rfl, rfl, rfl⟩

omit [TransferEngine ε] in
theorem maps_of_build {files : HostFiles} {config : Config} {engine : Option ε} {d : Device ε}
    (hbuild : build files config engine = .ok d) (hmode : config.mode = .pcie) :
    ∃ w, w.start = 0 ∧ Maps engine.isNone w d := by
  obtain ⟨table, bank, scheduler, dispatcher, -, htable, hbank, -, -, rfl⟩ := build_cases hbuild
  obtain ⟨backend?, hselect, htablemode, hfirst⟩ := openBanks_cases htable
  -- a board without a backend there has no DMA registers
  have hbar : table.mode.dmaBar = 0 := by rw [htablemode, hmode]; rfl
  cases backend? with
  | none =>
    rw [dmaBank, hbar, RegisterTable.bank?, hfirst] at hbank
    cases hbank
  | some backend =>
    obtain ⟨w, rfl, hstart⟩ := mapped_of_select hmode hselect
    exact ⟨w, hstart, hmode, htablemode.trans hmode, rfl, (RegisterTable.window?_eq_some_iff 0).2 ⟨_, hfirst, rfl⟩⟩

end Device

/-- a request of a session that is an access to registers -/
def SessionRequest.isAccess : SessionRequest → Bool
  | .read .. | .readRange .. | .write .. | .modify .. | .setMode .. => true
  | _ => false

namespace Device

variable {ε : Type} [TransferEngine ε]

theorem Moment.starts_of_isAccess {m : Moment ε} {number : Nat} {request : SessionRequest}
    (hm : m.command = .session number request) (h : request.isAccess) : m.activity.starts = [] := by
  obtain ⟨d, _⟩ := m
  cases hm
  cases hs : d.session? number with
  | none => simp only [activity, step, hs, EngineActivity.starts_empty]
  | some s =>
    have hquiet : request.isTransfer = false := by cases request <;> first | rfl | cases h
    simp only [activity, step, hs, (serve_of_not_isTransfer s hquiet d).2, EngineActivity.starts_empty]

/-- **User space cannot alter BAR 0 of a PCIe board.** For every PCIe device that was built and every run of commands:
- the memory behind BAR 0 keeps its length, and every byte of it outside the six DMA registers;
- those registers hold what they held at the start, or what the last start of the run wrote there: its channel and its
  descriptor;
- every start is that of a request that a session made in the run, on some channel;
- a command for which nothing is started leaves the memory as it was; in particular every access to registers that a
  session asks for, whatever the arguments. -/
theorem bar0_changed_by_starts {files : HostFiles} {config : Config} {engine : Option ε} {d : Device ε}
    (hbuild : build files config engine = .ok d) (hmode : config.mode = .pcie) (tickets : TicketCounter)
    (completions : CompletionTable) (elapsed : Ticket → Duration) (commands : List Command) :
    let host := d.onHost tickets completions elapsed
    let starts := (host.moments commands).flatMap fun m => m.activity.starts
    (∃ before after : Memory,
      host.contents? 0 = some before ∧ (host.run commands).1.contents? 0 = some after ∧
      after.length = before.length ∧
      (∀ i, ¬ (0x118 ≤ i ∧ i < 0x130) → after.byte i = before.byte i) ∧
      (after = before ∨ ∃ s, starts.getLast? = some s ∧ ∀ w ∈ s.writes, after.word w.1.toNat = w.2)) ∧
    (∀ s ∈ starts, ∃ r ∈ (host.moments commands).filterMap Moment.made?, s = r.startOn s.channel) ∧
    (∀ m ∈ host.moments commands, m.activity.starts = [] → m.after.contents? 0 = m.before.contents? 0) ∧
    (∀ m ∈ host.moments commands, ∀ number request, m.command = .session number request → request.isAccess →
      m.after.contents? 0 = m.before.contents? 0) := by
  intro host starts
  obtain ⟨w, hstart, hmaps⟩ := maps_of_build hbuild hmode
  have hhost : Maps engine.isNone w host := ⟨hmaps.config, hmaps.mode, hmaps.engine, hmaps.window⟩
  have quiet : ∀ m ∈ host.moments commands, m.activity.starts = [] → m.after.contents? 0 = m.before.contents? 0 := by
    intro m hm hnone
    obtain ⟨earlier, later, -, hbefore⟩ := mem_moments hm
    have hreached := maps_run hhost hstart earlier
    rw [← hbefore] at hreached
    have hafter := m.maps_after hreached ((w.place_foldl_started _ _).1.trans hstart)
    rw [hnone] at hafter
    rw [hafter.contents?, hreached.contents?]
    rfl
  refine ⟨?_, fun s hs => ?_, quiet, fun m hm number request hcommand haccess => ?_⟩
  · obtain ⟨hlength, hbytes, hwords⟩ := w.foldl_started engine.isNone starts
    exact ⟨_, _, hhost.contents?, (maps_run hhost hstart commands).contents?, hlength, hbytes, hwords⟩
  · obtain ⟨s₀, left, gone, h, hkept, hadds⟩ := kept_run hbuild tickets completions elapsed commands
    obtain ⟨r, hr, hstartOn⟩ := hkept.start_cases (hadds.starts ▸ List.mem_append_right _ hs)
    refine ⟨r, ?_, hstartOn⟩
    rw [hadds.created] at hr
    exact hr
  · exact quiet m hm (Moment.starts_of_isAccess hcommand haccess)

/-- nine transfers, then every kind of access to the DMA registers -/
def nineTransfersAndAccesses : List Command :=
  nineTransfers ++ [.session 0 (.setMode 0 0x118 15), .session 0 (.read 0 0x118), .session 0 (.modify 0 0x12C 0 1),
    .session 0 (.write 0 0x12C 1)]

/-- the registers are found as the last start left them, while the session that tried to write them was refused -/
theorem bar0_changed_by_starts_nineChannelBoard :
    let host := nineChannelBoard.onHost {} {} fun _ => ⟨0⟩
    let starts := (host.moments nineTransfersAndAccesses).flatMap fun m => m.activity.starts
    (host.run nineTransfersAndAccesses).2.getLast?.map Prod.fst =
      some (.error (.permissionDenied 0 "write" "pcie")) ∧
    ∃ after s, (host.run nineTransfersAndAccesses).1.contents? 0 = some after ∧ starts.getLast? = some s ∧
      ∀ w ∈ s.writes, after.word w.1.toNat = w.2 := by
  intro host starts
  obtain ⟨⟨before, after, hbefore, hafter, -, -, hwords⟩, -⟩ :=
    bar0_changed_by_starts build_nineChannelBoard rfl {} {} (fun _ => ⟨0⟩) nineTransfersAndAccesses
  refine ⟨by decide +kernel, after, ?_⟩
  rcases hwords with rfl | ⟨s, hs, hwords⟩
  · -- the memory did change
    have hchanged : (host.run nineTransfersAndAccesses).1.contents? 0 ≠ host.contents? 0 := by decide +kernel
    exact absurd (hafter.trans hbefore.symm) hchanged
  · exact ⟨s, hafter, hs, hwords⟩

end Device
end BoardDriver

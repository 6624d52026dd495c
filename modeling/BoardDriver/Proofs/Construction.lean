/-
Which boards can be driven, and which reason is given against the others.

A device is built in stages: the settings, the resource files of the six BARs, the registers of the DMA controller, the
interrupts of its channels. Each stage has conditions of its own, and the answer to a board that fails several is the
error of the first. `Device.conditions` lists them all, in order, with their errors, and does not look at the stages.

- `Device.decides_validate`, `Device.decides_openBanks`, `Device.decides_dmaBank`, `Device.decides_probeScheduler`: the
  stages;
- `Device.build_decides`: a device, and what it is made of.
-/
import BoardDriver.Proofs.BarMemory
import BoardDriver.Proofs.OrderedChecks

namespace BoardDriver
namespace Device

/-! ## What is asked of a board -/

section

variable (files : HostFiles) (config : Config)

/-- contents of the resource file of a BAR, if there is such a file -/
def resource? (bar : Nat) : Option Memory :=
  match config.pcieAddress.bind fun address => files (BoardBackend.resourcePath address bar) with
  | some (.file m) => some m
  | _ => none

def resourceLength (bar : Nat) : Nat := ((resource? files config bar).map Memory.length).getD 0

def dmaRegister (offset : UInt32) : UInt32 :=
  ((resource? files config config.mode.dmaBar).map fun m => m.word offset.toNat).getD 0

def reportedChannels : Nat := (dmaRegister files config DmaRegister.capability &&& DmaRegister.channelCountMask).toNat

def settingsConditions : List Condition :=
  [{ holds := config.eventDepth ≠ 0, error := .invalidArgument .emptyQueue },
   { holds := config.dispatchPool ≠ 0, error := .invalidArgument .emptyPool },
   { holds := config.pcieAddress ≠ none, error := .invalidArgument (.addressNeeded config.mode) }]

/-- what is asked of the resource file of a BAR: it may be absent, but not empty -/
def resourceCondition (bar : Nat) : Condition where
  holds := ∀ m, resource? files config bar = some m → m.length ≠ 0
  error := .invalidArgument (.emptyMap (BoardBackend.resourcePath (config.pcieAddress.getD "") bar))

def controllerCondition : Condition where
  holds := resource? files config config.mode.dmaBar ≠ none
  error := .barDisabled config.mode.dmaBar

/-- the DMA BAR has room for a register -/
def roomCondition (offset : UInt32) : Condition where
  holds := offset.toNat + registerBytes ≤ resourceLength files config config.mode.dmaBar
  error := .outOfRange offset.toNat (wordSize (resourceLength files config config.mode.dmaBar))

/-- the last channel gets an interrupt, if there are channels -/
def interruptCondition : Condition where
  holds := reportedChannels files config ≠ 0 →
    config.irqBase.toNat + (reportedChannels files config - 1) < 2 ^ 32
  error := .invalidArgument .irqOverflow

/-- all that is asked of a board, in the order in which it is looked at -/
def conditions : List Condition :=
  settingsConditions config ++ ((List.range barCount).map (resourceCondition files config) ++
    [controllerCondition files config,
     roomCondition files config DmaRegister.capability,
     roomCondition files config DmaRegister.status,
     interruptCondition files config])

/-- mapping does not fail: what stands at the path of a BAR is a file, and not too large for the process -/
def Mappable : Prop :=
  ∀ address, config.pcieAddress = some address → ∀ bar < barCount, ∀ entry,
    files (BoardBackend.resourcePath address bar) = some entry →
    ∃ m, entry = .file m ∧ m.length < MappedWindow.addressSpace

/-- the bank of a BAR: a window onto its file, or nothing -/
def expectedBank (bar : Nat) : RegisterBank BoardBackend :=
  RegisterBank.ofBackend bar ((resource? files config bar).map fun m =>
    .mapped { path := BoardBackend.resourcePath (config.pcieAddress.getD "") bar, start := 0, extent := m.length,
              file := m })

/-- the bank of a BAR is there if its file is, is as large as the file, up to the greatest 32-bit number, and holds what
the file holds -/
theorem expectedBank_laws (bar : Nat) :
    let b := expectedBank files config bar
    (b.isEnabled = true ↔ resource? files config bar ≠ none) ∧
      b.size = min (resourceLength files config bar) (2 ^ 32 - 1) ∧
      ((b.backend.bind BoardBackend.mapped?).map MappedWindow.file) = resource? files config bar := by
  intro b
  cases hresource : resource? files config bar with
  | none =>
    have hb : b = RegisterBank.ofBackend bar none := by simp only [b, expectedBank, hresource, Option.map_none]
    rw [hb]
    exact ⟨by simp [RegisterBank.ofBackend, RegisterBank.isEnabled],
      by simp [resourceLength, hresource, RegisterBank.ofBackend], rfl⟩
  | some m =>
    refine ⟨?_, ?_, ?_⟩
    · simp [b, expectedBank, hresource, RegisterBank.ofBackend, RegisterBank.isEnabled]
    · simp [b, expectedBank, resourceLength, hresource, RegisterBank.ofBackend, RegisterBackend.size,
        MappedWindow.size, wordSize, UInt32.size]
    · simp [b, expectedBank, hresource, RegisterBank.ofBackend, BoardBackend.mapped?]

end

/-! ## The stages -/

section

variable {files : HostFiles} {config : Config}

theorem decides_validate (hmode : config.mode = .pcie ∨ config.mode = .fvd) :
    Condition.Decides config.validate (settingsConditions config) fun _ => config.pcieAddress ≠ none := by
  unfold Config.validate settingsConditions
  by_cases hqueue : config.eventDepth = 0
  · rw [if_pos hqueue]
    exact .here _ (not_not_intro hqueue)
  by_cases hpool : config.dispatchPool = 0
  · rw [if_neg hqueue, if_pos hpool]
    exact .later hqueue (.here _ (not_not_intro hpool))
  rw [if_neg hqueue, if_neg hpool]
  cases haddress : config.pcieAddress with
  | none =>
    have hlast : ¬ (none : Option String) ≠ none := not_not_intro rfl
    rcases hmode with hm | hm <;> rw [hm] <;> exact .later hqueue (.later hpool (.here _ hlast))
  | some address =>
    have hall : config.eventDepth ≠ 0 ∧ config.dispatchPool ≠ 0 := ⟨hqueue, hpool⟩
    rcases hmode with hm | hm <;> rw [hm] <;> exact ⟨by simpa using hall, by simp⟩

section

variable {address : String} {bar : Nat} (hmode : config.mode = .pcie ∨ config.mode = .fvd)
variable (ha : config.pcieAddress = some address)
include hmode ha

theorem select_of_window {w : MappedWindow}
    (h : MappedWindow.ofFile files (BoardBackend.resourcePath address bar) 0 none = .ok w) :
    BoardBackend.select files config bar = .ok (some (.mapped w)) := by
  rcases hmode with hm | hm <;> simp only [BoardBackend.select, hm, ha, h]

theorem select_of_missing {path : String}
    (h : MappedWindow.ofFile files (BoardBackend.resourcePath address bar) 0 none = .error (.deviceNotFound path)) :
    BoardBackend.select files config bar = .ok none := by
  rcases hmode with hm | hm <;> simp only [BoardBackend.select, hm, ha, h]

theorem select_of_refusal {refusal : Refusal}
    (h : MappedWindow.ofFile files (BoardBackend.resourcePath address bar) 0 none = .error (.invalidArgument refusal)) :
    BoardBackend.select files config bar = .error (.invalidArgument refusal) := by
  rcases hmode with hm | hm <;> simp only [BoardBackend.select, hm, ha, h]

end

/-- a BAR gets the window onto its file, or nothing -/
theorem decides_select (hmode : config.mode = .pcie ∨ config.mode = .fvd) (haddress : config.pcieAddress ≠ none)
    (hmap : Mappable files config) {bar : Nat} (hbar : bar < barCount) :
    Condition.Decides ((BoardBackend.select files config bar).map (RegisterBank.ofBackend bar))
      [resourceCondition files config bar] (· = expectedBank files config bar) := by
  obtain ⟨address, ha⟩ := Option.ne_none_iff_exists'.1 haddress
  have hresource : resource? files config bar =
      match files (BoardBackend.resourcePath address bar) with
      | some (.file m) => some m
      | _ => none := by
    simp only [resource?, ha, Option.bind_some]
  cases hentry : files (BoardBackend.resourcePath address bar) with
  | none =>
    rw [hentry] at hresource
    have hmissing : MappedWindow.ofFile files (BoardBackend.resourcePath address bar) 0 none =
        .error (.deviceNotFound (BoardBackend.resourcePath address bar)) := by
      simp only [MappedWindow.ofFile, hentry]
    rw [select_of_missing hmode ha hmissing]
    apply Condition.decides_one
    · intro _
      refine ⟨_, ?_, rfl⟩
      simp [expectedBank, hresource, Except.map]
    · intro hno
      simp [resourceCondition, hresource] at hno
  | some entry =>
    obtain ⟨m, rfl, hfit⟩ := hmap address ha bar hbar entry hentry
    rw [hentry] at hresource
    apply Condition.decides_one
    · intro hpos
      have hlength : 0 < m.length := Nat.pos_of_ne_zero (hpos m hresource)
      refine ⟨_, ?_, rfl⟩
      rw [select_of_window hmode ha (MappedWindow.ofFile_whole hentry hlength hfit)]
      simp [expectedBank, hresource, ha, Except.map]
    · intro hno
      have hlength : m.length = 0 := by
        simp only [resourceCondition, hresource] at hno
        grind
      rw [select_of_refusal hmode ha (MappedWindow.ofFile_empty hentry hlength)]
      simp [resourceCondition, ha, Except.map]

theorem bank?_expected (bar : Nat) :
    (RegisterTable.ofBanks config.mode ((List.range barCount).map (expectedBank files config))).bank? bar =
      if bar < barCount then some (expectedBank files config bar) else none := by
  have hfull : barCount - ((List.range barCount).map (expectedBank files config)).length = 0 := by
    rw [List.length_map, List.length_range, Nat.sub_self]
  simp only [RegisterTable.ofBanks, RegisterTable.bank?, hfull, List.range_zero, List.map_nil, List.append_nil,
    List.getElem?_map]
  split
  · rename_i hbar
    rw [List.getElem?_range hbar, Option.map_some]
  · rename_i hbar
    rw [List.getElem?_eq_none (by rw [List.length_range]; omega), Option.map_none]

/-- all six BARs -/
theorem decides_openBanks (hmode : config.mode = .pcie ∨ config.mode = .fvd) (haddress : config.pcieAddress ≠ none)
    (hmap : Mappable files config) :
    Condition.Decides (openBanks files config) ((List.range barCount).map (resourceCondition files config))
      (· = RegisterTable.ofBanks config.mode ((List.range barCount).map (expectedBank files config))) := by
  rw [← List.append_nil ((List.range barCount).map (resourceCondition files config))]
  have hbars : ∀ bar ∈ List.range barCount,
      Condition.Decides ((BoardBackend.select files config bar).map (RegisterBank.ofBackend bar))
        [resourceCondition files config bar] (· = expectedBank files config bar) := by
    intro bar hbar
    exact decides_select hmode haddress hmap (List.mem_range.1 hbar)
  apply (Condition.decides_mapM _ hbars).bind
  rintro _ - rfl
  exact Condition.decides_pure rfl

/-- the BAR of the DMA controller -/
theorem decides_dmaBank :
    Condition.Decides
      (dmaBank (RegisterTable.ofBanks config.mode ((List.range barCount).map (expectedBank files config))))
      [controllerCondition files config] (· = expectedBank files config config.mode.dmaBar) := by
  have hbar : config.mode.dmaBar < barCount := by cases config.mode <;> decide
  unfold dmaBank
  rw [show (RegisterTable.ofBanks config.mode ((List.range barCount).map (expectedBank files config))).mode.dmaBar =
    config.mode.dmaBar from rfl, bank?_expected, if_pos hbar]
  cases hresource : resource? files config config.mode.dmaBar with
  | none =>
    have hdisabled : (expectedBank files config config.mode.dmaBar).isEnabled = false := by
      simp only [expectedBank, hresource]
      rfl
    simp only [Option.filter, hdisabled]
    exact .here [] (not_not_intro hresource)
  | some m =>
    have henabled : (expectedBank files config config.mode.dmaBar).isEnabled = true := by
      simp only [expectedBank, hresource]
      rfl
    simp only [Option.filter, henabled]
    exact ⟨by simp [controllerCondition, hresource], rfl⟩

/-- reading a register of the DMA controller -/
theorem decides_read (offset : UInt32) (ha : offset.toNat % 4 = 0)
    (hexists : resource? files config config.mode.dmaBar ≠ none) :
    let bank := expectedBank files config config.mode.dmaBar
    Condition.Decides (RegisterBank.read offset bank).result [roomCondition files config offset]
        (· = dmaRegister files config offset) ∧
      (RegisterBank.read offset bank).state = bank := by
  obtain ⟨m, hm⟩ := Option.ne_none_iff_exists'.1 hexists
  intro bank
  have hlength : resourceLength files config config.mode.dmaBar = m.length := by
    simp only [resourceLength, hm, Option.map_some, Option.getD_some]
  have hword : dmaRegister files config offset = m.word offset.toNat := by
    simp only [dmaRegister, hm, Option.map_some, Option.getD_some]
  generalize hpath : BoardBackend.resourcePath (config.pcieAddress.getD "") config.mode.dmaBar = path
  have hbank : bank = RegisterBank.ofBackend config.mode.dmaBar
      (some (.mapped { path := path, start := 0, extent := m.length, file := m })) := by
    simp only [bank, expectedBank, hm, Option.map_some, hpath]
  rw [hbank]
  simp only [RegisterBank.read, RegisterBank.onBackend, RegisterBank.ofBackend, Action.on, RegisterBackend.read,
    BoardBackend.act, MappedWindow.state_read, and_true]
  apply Condition.decides_one
  · intro hroom
    refine ⟨_, ?_, rfl⟩
    have hcheck : MappedWindow.check { path := path, start := 0, extent := m.length, file := m } offset = .ok () := by
      rw [MappedWindow.check_eq_ok_iff]
      exact ⟨ha, hlength ▸ hroom⟩
    simp only [MappedWindow.read, hcheck, Nat.zero_add, hword]
  · intro hno
    have hshort : m.length < offset.toNat + registerBytes := by
      rw [← hlength]
      exact Nat.lt_of_not_le hno
    have haligned : offset.toNat % registerBytes = 0 := ha
    simp only [MappedWindow.read, MappedWindow.check, haligned, ne_eq, not_true_eq_false, if_false, if_pos hshort,
      roomCondition, hlength, MappedWindow.size]

/-- the scheduler of a device that was built: what the board reports, and nothing to do yet -/
structure AsReported (files : HostFiles) (config : Config) (s : Scheduler) : Prop where
  capacity : s.capacity = reportedChannels files config
  idle : ∀ i, s.idle.getLsbD i = true ↔
    i < reportedChannels files config ∧ (dmaRegister files config DmaRegister.status).toBitVec.getLsbD i = false
  free : ∀ c, s.running? c = none
  pending : s.pending = []
  bound : s.IsBoundFrom config.irqBase

theorem reportedChannels_le (files : HostFiles) (config : Config) : reportedChannels files config ≤ 15 := by
  rw [reportedChannels, UInt32.toNat_and]
  exact Nat.and_le_right

/-- asking the controller -/
theorem decides_probeChannels (hmode : config.mode = .pcie ∨ config.mode = .fvd)
    (hexists : resource? files config config.mode.dmaBar ≠ none) :
    Condition.Decides (probeChannels config.mode (expectedBank files config config.mode.dmaBar)).result
      [roomCondition files config DmaRegister.capability, roomCondition files config DmaRegister.status]
      fun report => report.channels = reportedChannels files config ∧
        report.idle = ~~~(dmaRegister files config DmaRegister.status).toBitVec &&&
          Bits.mask (reportedChannels files config) := by
  have hhardware : config.mode.isSimulator = false := by rcases hmode with hm | hm <;> rw [hm] <;> rfl
  obtain ⟨hcapability, hsame⟩ := decides_read DmaRegister.capability (by decide) hexists
  obtain ⟨hstatus, -⟩ := decides_read DmaRegister.status (by decide) hexists
  simp only [probeChannels, hhardware, Bool.false_eq_true, if_false]
  change Condition.Decides (Action.bind _ _ _).result ([_] ++ [_]) _
  rw [Action.result_bind]
  apply hcapability.bind
  rintro _ - rfl
  rw [hsame]
  change Condition.Decides (Action.bind _ _ _).result ([_] ++ []) _
  rw [Action.result_bind]
  apply hstatus.bind
  rintro _ - rfl
  exact Condition.decides_pure ⟨rfl, rfl⟩

/-- the scheduler -/
theorem decides_probeScheduler (hmode : config.mode = .pcie ∨ config.mode = .fvd)
    (hexists : resource? files config config.mode.dmaBar ≠ none) :
    Condition.Decides (probeScheduler config (expectedBank files config config.mode.dmaBar))
      ([roomCondition files config DmaRegister.capability, roomCondition files config DmaRegister.status] ++
        [interruptCondition files config]) (AsReported files config) := by
  apply (decides_probeChannels hmode hexists).bind
  rintro report - ⟨hchannels, hidle⟩
  have hle := reportedChannels_le files config
  have hbase := config.irqBase.toNat_lt
  have hanswer := Scheduler.bindInterrupts_fresh report.channels report.idle config.irqBase
  have hload := Scheduler.sameLoad_bindInterrupts config.irqBase (.fresh report.channels report.idle)
  have hbound := @Scheduler.isBoundFrom_bindInterrupts (.fresh report.channels report.idle) config.irqBase
  cases hbind : (Scheduler.fresh report.channels report.idle).bindInterrupts config.irqBase with
  | mk bound scheduler =>
    rw [hbind] at hanswer hload hbound
    dsimp only at hanswer hload hbound ⊢
    apply Condition.decides_one
    · intro hfits
      rw [if_pos (by simp only [interruptCondition] at hfits; omega)] at hanswer
      refine ⟨scheduler, by rw [hanswer]; rfl, ?_⟩
      refine { capacity := ?capacity, idle := ?idle, free := ?free, pending := hload.pending, bound := hbound hanswer }
      case capacity =>
        rw [hload.capacity]
        simp only [Scheduler.fresh, Scheduler.capacity, List.length_replicate, maxDmaChannels]
        omega
      case idle =>
        intro i
        rw [hload.idle]
        simp only [Scheduler.fresh, maxDmaChannels, BitVec.getLsbD_and, Bits.getLsbD_mask, hidle, hchannels,
          BitVec.getLsbD_not]
        grind
      case free =>
        intro c
        rw [hload.running?, Scheduler.running?_fresh]
    · intro hno
      rw [hanswer, if_neg (by simp only [interruptCondition] at hno; omega)]
      rfl

/-- **When a board can be driven**, for a PCIe or an Fvd board whose resource files are absent, empty or of any size,
provided that mapping does not fail: a device is built if all the conditions hold, and otherwise the answer is the error
of the first that does not. A device has behind each BAR the file of that BAR, or nothing if there is none, and as many
channels as its board reports, idle unless the board says that they are busy, bound one after another from the first
interrupt on, with nothing to do. -/
theorem build_decides {ε : Type} (files : HostFiles) (config : Config) (engine : Option ε)
    (hmode : config.mode = .pcie ∨ config.mode = .fvd) (hmap : Mappable files config) :
    ((∃ d, build files config engine = .ok d) ↔ ∀ c ∈ conditions files config, c.holds) ∧
    (∀ e, build files config engine = .error e ↔ Condition.FirstFailure (conditions files config) e) ∧
    ∀ d, build files config engine = .ok d →
      (∀ bar < barCount, ∃ b, d.table.bank? bar = some b ∧
        (b.isEnabled = true ↔ resource? files config bar ≠ none) ∧
        b.size = min (resourceLength files config bar) (2 ^ 32 - 1) ∧
        d.contents? bar = resource? files config bar) ∧
      AsReported files config d.ledger.scheduler := by
  have stages : Condition.Decides (build files config engine)
      (settingsConditions config ++ ((List.range barCount).map (resourceCondition files config) ++
        ([controllerCondition files config] ++
          (([roomCondition files config DmaRegister.capability, roomCondition files config DmaRegister.status] ++
            [interruptCondition files config]) ++ []))))
      fun d => (∀ bar, d.table.bank? bar = if bar < barCount then some (expectedBank files config bar) else none) ∧
        AsReported files config d.ledger.scheduler := by
    apply (decides_validate hmode).bind
    intro _ hsettings haddress
    apply (decides_openBanks hmode haddress hmap).bind
    rintro _ - rfl
    apply decides_dmaBank.bind
    rintro _ hcontroller rfl
    apply (decides_probeScheduler hmode (hcontroller _ List.mem_cons_self)).bind
    intro scheduler _ hscheduler
    have hpool : config.dispatchPool ≠ 0 := hsettings _ (List.mem_cons_of_mem _ List.mem_cons_self)
    simp only [Dispatcher.start, if_neg hpool]
    exact Condition.decides_pure ⟨bank?_expected, hscheduler⟩
  refine ⟨stages.exists_ok_iff, stages.eq_error_iff, ?_⟩
  intro d hd
  obtain ⟨htable, hscheduler⟩ := stages.of_eq_ok hd
  refine ⟨?_, hscheduler⟩
  intro bar hbar
  have hbank := (htable bar).trans (if_pos hbar)
  obtain ⟨henabled, hsize, hwindow⟩ := expectedBank_laws files config bar
  refine ⟨_, hbank, henabled, hsize, ?_⟩
  rw [contents?, RegisterTable.window?, hbank]
  exact hwindow

/-- one file only, so mapping cannot fail -/
theorem mappable_nineChannelFiles : Mappable nineChannelFiles (.pcie "0000:03:00.0" 32) := by
  intro address _ bar _ entry hentry
  unfold nineChannelFiles at hentry
  split at hentry
  · cases hentry
    exact ⟨_, rfl, by decide⟩
  · cases hentry

/-- nine channels on a PCIe board, the last one bound to interrupt 40; and on an Fvd board, where the controller is
looked for behind BAR 3, the same files fail for want of a controller -/
theorem build_decides_nineChannelBoard :
    let fvd : Config := { Config.pcie "0000:03:00.0" 32 with mode := .fvd }
    nineChannelBoard.ledger.scheduler.capacity = 9 ∧
    nineChannelBoard.ledger.scheduler.bindings[8]? = some (some 40) ∧
    (∃ b, nineChannelBoard.table.bank? 1 = some b ∧ ¬ b.isEnabled = true) ∧
    Condition.FirstFailure (conditions nineChannelFiles fvd) (.barDisabled 3) := by
  intro fvd
  obtain ⟨-, -, hmade⟩ := build_decides nineChannelFiles (.pcie "0000:03:00.0" 32)
    (none : Option (RegisterBank BoardBackend)) (.inl rfl) mappable_nineChannelFiles
  obtain ⟨hbanks, reported⟩ := hmade _ build_nineChannelBoard
  obtain ⟨b, hb, henabled, -⟩ := hbanks 1 (by decide)
  have hnine : reportedChannels nineChannelFiles (.pcie "0000:03:00.0" 32) = 9 := by decide +kernel
  have hcapacity := reported.capacity.trans hnine
  refine ⟨hcapacity, ?_, ⟨b, hb, ?_⟩, ?_⟩
  · rw [reported.bound.bound, hcapacity]
    rfl
  · rw [henabled]
    exact not_not_intro (by decide +kernel)
  · have hrefused := build_decides nineChannelFiles fvd (none : Option (RegisterBank BoardBackend)) (.inr rfl)
      mappable_nineChannelFiles
    exact (hrefused.2.1 _).1 (by rfl)

end

end Device
end BoardDriver

/-
The memory behind a BAR of a mapped board, and what the driver's own writes do to it.

- `Memory.byte_setWord`, `Memory.word_setWord`, `Memory.word_setWord_of_apart`: what a word written to memory does to
  its bytes and words;
- `Start.programmed`: memory after a start has been written to the DMA registers; six words change and nothing else;
- `MappedWindow.state_program`: the writes of a start through a window are all carried out, or none of them;
- `UserAccess.spares`: on a PCIe board no access of a session, whatever its arguments are, changes the window behind
  BAR 0.
-/
import BoardDriver.Board.Backend
import BoardDriver.Proofs.AccessGuard
import BoardDriver.Transfer.Engine

namespace BoardDriver

/-! ## Words in memory -/

namespace Memory

@[simp] theorem length_setBytes (m : Memory) (i : Nat) (bs : List UInt8) : (m.setBytes i bs).length = m.length := by
  induction bs generalizing m i with
  | nil => rfl
  | cons b bs ih => exact ih (m.setByte i b) (i + 1)

@[simp] theorem length_setWord (m : Memory) (i : Nat) (w : UInt32) : (m.setWord i w).length = m.length :=
  m.length_setBytes i _

theorem byte_setBytes (m : Memory) (i j : Nat) (bs : List UInt8) :
    (m.setBytes i bs).byte j = if i ≤ j then (bs[j - i]?).getD (m.byte j) else m.byte j := by
  induction bs generalizing m i with
  | nil => simp [setBytes]
  | cons b bs ih =>
    rw [setBytes, ih, byte_setByte]
    rcases Nat.lt_trichotomy i j with h | rfl | h
    · have hsucc : j - i = (j - (i + 1)) + 1 := by omega
      rw [if_pos (Nat.succ_le_of_lt h), if_neg (Nat.ne_of_gt h), if_pos (Nat.le_of_lt h), hsucc,
        List.getElem?_cons_succ]
    · rw [if_neg (by omega), if_pos rfl, if_pos (Nat.le_refl i), Nat.sub_self]
      rfl
    · rw [if_neg (by omega), if_neg (by omega), if_neg (by omega)]

/-- a word covers four bytes -/
theorem byte_setWord_of_apart (m : Memory) {i j : Nat} (w : UInt32) (h : j < i ∨ i + 4 ≤ j) :
    (m.setWord i w).byte j = m.byte j := by
  rw [setWord, byte_setBytes]
  split
  · rw [List.getElem?_eq_none (by simp only [bytesOfWord, List.length_cons, List.length_nil]; omega)]
    rfl
  · rfl

/-- the four bytes of a word, put together again -/
theorem wordOfBytes_bytesOfWord (w : UInt32) :
    wordOfBytes w.toUInt8 (w >>> 8).toUInt8 (w >>> 16).toUInt8 (w >>> 24).toUInt8 = w := by
  have key : ∀ x : BitVec 32, (x.setWidth 8).setWidth 32 ||| ((x >>> 8).setWidth 8).setWidth 32 <<< 8 |||
      ((x >>> 16).setWidth 8).setWidth 32 <<< 16 ||| ((x >>> 24).setWidth 8).setWidth 32 <<< 24 = x := by
    intro x
    refine BitVec.eq_of_getLsbD_eq fun i hi => ?_
    simp only [BitVec.getLsbD_or, BitVec.getLsbD_shiftLeft, BitVec.getLsbD_setWidth, BitVec.getLsbD_ushiftRight, hi,
      decide_true, Bool.true_and]
    grind
  exact UInt32.eq_of_toBitVec_eq (key w.toBitVec)

theorem word_setWord (m : Memory) (i : Nat) (w : UInt32) : (m.setWord i w).word i = w := by
  have hbyte : ∀ k (hk : k < 4), (m.setWord i w).byte (i + k) = (bytesOfWord w).get ⟨k, hk⟩ := by
    intro k hk
    rw [setWord, byte_setBytes, if_pos (Nat.le_add_right i k), Nat.add_sub_cancel_left, List.getElem?_eq_getElem hk]
    rfl
  have h0 := hbyte 0 (by omega)
  rw [Nat.add_zero] at h0
  rw [word, h0, hbyte 1 (by omega), hbyte 2 (by omega), hbyte 3 (by omega)]
  exact wordOfBytes_bytesOfWord w

theorem word_setWord_of_apart (m : Memory) {i j : Nat} (w : UInt32) (h : j + 4 ≤ i ∨ i + 4 ≤ j) :
    (m.setWord i w).word j = m.word j := by
  simp only [word]
  rw [byte_setWord_of_apart, byte_setWord_of_apart, byte_setWord_of_apart, byte_setWord_of_apart] <;> omega

def setWords (m : Memory) (ws : List (UInt32 × UInt32)) : Memory :=
  ws.foldl (fun m w => m.setWord w.1.toNat w.2) m

theorem setWords_cons (m : Memory) (w : UInt32 × UInt32) (ws : List (UInt32 × UInt32)) :
    m.setWords (w :: ws) = (m.setWord w.1.toNat w.2).setWords ws := rfl

@[simp] theorem length_setWords (m : Memory) (ws : List (UInt32 × UInt32)) : (m.setWords ws).length = m.length := by
  induction ws generalizing m with
  | nil => rfl
  | cons w ws ih => rw [setWords_cons, ih, length_setWord]

theorem byte_setWords_of_apart {ws : List (UInt32 × UInt32)} {j : Nat}
    (h : ∀ w ∈ ws, j < w.1.toNat ∨ w.1.toNat + 4 ≤ j) (m : Memory) : (m.setWords ws).byte j = m.byte j := by
  induction ws generalizing m with
  | nil => rfl
  | cons w ws ih =>
    rw [setWords_cons, ih fun v hv => h v (List.mem_cons_of_mem w hv)]
    exact m.byte_setWord_of_apart w.2 (h w List.mem_cons_self)

theorem word_setWords_of_apart {ws : List (UInt32 × UInt32)} {j : Nat}
    (h : ∀ w ∈ ws, j + 4 ≤ w.1.toNat ∨ w.1.toNat + 4 ≤ j) (m : Memory) : (m.setWords ws).word j = m.word j := by
  induction ws generalizing m with
  | nil => rfl
  | cons w ws ih =>
    rw [setWords_cons, ih fun v hv => h v (List.mem_cons_of_mem w hv)]
    exact m.word_setWord_of_apart w.2 ((h w List.mem_cons_self).imp id id)

/-- words that do not overlap stay as they were written -/
theorem word_setWords {ws : List (UInt32 × UInt32)}
    (apart : ws.Pairwise fun v w => v.1.toNat + 4 ≤ w.1.toNat ∨ w.1.toNat + 4 ≤ v.1.toNat) (m : Memory) :
    ∀ w ∈ ws, (m.setWords ws).word w.1.toNat = w.2 := by
  induction ws generalizing m with
  | nil => simp
  | cons v ws ih =>
    obtain ⟨hfirst, hrest⟩ := List.pairwise_cons.1 apart
    intro w hw
    rw [setWords_cons]
    rcases List.mem_cons.1 hw with rfl | hw
    · rw [word_setWords_of_apart hfirst]
      exact m.word_setWord _ _
    · exact ih hrest _ w hw

end Memory

/-! ## The DMA registers -/

namespace Start

/-- memory after the start has been written to the DMA registers -/
def programmed (s : Start) (m : Memory) : Memory := m.setWords s.writes

def offsets : List UInt32 :=
  [DmaRegister.channel, DmaRegister.source, DmaRegister.destination, DmaRegister.direction, DmaRegister.length,
   DmaRegister.start]

theorem map_fst_writes (s : Start) : s.writes.map Prod.fst = offsets := rfl

/-- the registers lie side by side -/
theorem mem_writes_range {s : Start} {w : UInt32 × UInt32} (h : w ∈ s.writes) :
    w.1.toNat % 4 = 0 ∧ 0x118 ≤ w.1.toNat ∧ w.1.toNat + 4 ≤ 0x130 := by
  have hall : ∀ offset ∈ offsets, offset.toNat % 4 = 0 ∧ 0x118 ≤ offset.toNat ∧ offset.toNat + 4 ≤ 0x130 := by
    -- one offset at a time, and not one 32-bit number after the other
    simp only [offsets, List.forall_mem_cons, List.not_mem_nil, false_implies, implies_true, and_true]
    decide
  exact hall w.1 (s.map_fst_writes ▸ List.mem_map_of_mem h)

theorem pairwise_writes (s : Start) :
    s.writes.Pairwise fun v w => v.1.toNat + 4 ≤ w.1.toNat ∨ w.1.toNat + 4 ≤ v.1.toNat := by
  have hall : offsets.Pairwise fun v w => v.toNat + 4 ≤ w.toNat ∨ w.toNat + 4 ≤ v.toNat := by decide
  rw [← s.map_fst_writes] at hall
  exact List.pairwise_map.1 hall

@[simp] theorem length_programmed (s : Start) (m : Memory) : (s.programmed m).length = m.length :=
  m.length_setWords _

theorem byte_programmed_of_outside (s : Start) (m : Memory) {j : Nat} (h : ¬ (0x118 ≤ j ∧ j < 0x130)) :
    (s.programmed m).byte j = m.byte j := by
  refine Memory.byte_setWords_of_apart (fun w hw => ?_) m
  have hrange := mem_writes_range hw
  omega

theorem word_programmed (s : Start) (m : Memory) : ∀ w ∈ s.writes, (s.programmed m).word w.1.toNat = w.2 :=
  Memory.word_setWords s.pairwise_writes m

end Start

/-! ## Windows -/

namespace MappedWindow

/-- a file without contents cannot be mapped -/
theorem ofFile_empty {files : HostFiles} {path : String} {m : Memory} (hfile : files path = some (.file m))
    (hm : m.length = 0) : ofFile files path 0 none = .error (.invalidArgument (.emptyMap path)) := by
  simp [ofFile, hfile, hm]

/-- the window onto the whole of a file -/
theorem ofFile_whole {files : HostFiles} {path : String} {m : Memory} (hfile : files path = some (.file m))
    (hpos : 0 < m.length) (hfit : m.length < addressSpace) :
    ofFile files path 0 none = .ok { path := path, start := 0, extent := m.length, file := m } := by
  simp [ofFile, hfile, Nat.ne_of_gt hpos, Nat.not_le_of_gt hfit]

/-- when a window onto a file opens, and what it is then -/
theorem ofFile_eq_ok_iff {files : HostFiles} {path : String} {m : Memory} (hfile : files path = some (.file m))
    (offset : Nat) (length : Option Nat) (w : MappedWindow) :
    ofFile files path offset length = .ok w ↔
      offset % pageBytes = 0 ∧ 0 < length.getD m.length ∧ length.getD m.length < addressSpace ∧
        w = { path := path, start := offset, extent := length.getD m.length, file := m } := by
  simp only [ofFile, hfile]
  by_cases hpage : offset % pageBytes = 0
  case neg => simp [hpage]
  by_cases hpos : length.getD m.length = 0
  case pos => simp [hpage, hpos]
  by_cases hlarge : addressSpace ≤ length.getD m.length
  case pos => simp [hpage, hpos, hlarge, Nat.not_lt.2 hlarge]
  simp [hpage, hpos, hlarge, Nat.pos_of_ne_zero hpos, Nat.lt_of_not_le hlarge, eq_comm]

theorem check_of_unaligned (w : MappedWindow) {offset : UInt32} (h : offset.toNat % 4 ≠ 0) :
    w.check offset = .error (.invalidArgument (.unalignedRegister offset)) :=
  if_pos h

theorem check_of_past (w : MappedWindow) {offset : UInt32} (haligned : offset.toNat % 4 = 0)
    (hpast : w.extent < offset.toNat + 4) : w.check offset = .error (.outOfRange offset.toNat w.size) :=
  (if_neg (not_not_intro haligned)).trans (if_pos hpast)

theorem check_eq_ok_iff (w : MappedWindow) (offset : UInt32) :
    w.check offset = .ok () ↔ offset.toNat % 4 = 0 ∧ offset.toNat + 4 ≤ w.extent := by
  unfold check registerBytes
  split
  · simp_all
  · split
    · simp_all
    · simp_all

@[simp] theorem state_read (offset : UInt32) (w : MappedWindow) : (read offset w).state = w := by
  unfold read
  split <;> rfl

/-- the window after a start has been written through it, which takes room for the last register -/
def programmed (s : Start) (w : MappedWindow) : MappedWindow :=
  if 0x130 ≤ w.extent then { w with file := s.programmed w.file } else w

theorem write_of_check {w : MappedWindow} {offset : UInt32} (value : UInt32) (h : w.check offset = .ok ()) :
    write offset value w =
      { result := .ok (), state := { w with file := w.file.setWord (w.start + offset.toNat) value } } := by
  simp only [write, h]

/-- words written through a window onto the whole of a file, with room for each -/
theorem sequence_write (ws : List (UInt32 × UInt32)) {w : MappedWindow} (hstart : w.start = 0)
    (h : ∀ v ∈ ws, w.check v.1 = .ok ()) :
    Action.sequence (ws.map fun (offset, value) => (RegisterBackend.write offset value : Action BoardBackend Unit))
      (.mapped w) =
      { result := .ok (), state := .mapped { w with file := w.file.setWords ws } } := by
  induction ws generalizing w with
  | nil => rfl
  | cons v ws ih =>
    have hfirst : (RegisterBackend.write v.1 v.2 : Action BoardBackend Unit) (.mapped w) =
        { result := .ok (), state := .mapped { w with file := w.file.setWord v.1.toNat v.2 } } := by
      simp only [RegisterBackend.write, BoardBackend.act, Action.on, write_of_check v.2 (h v List.mem_cons_self),
        hstart, Nat.zero_add]
    have hok : ((RegisterBackend.write v.1 v.2 : Action BoardBackend Unit) (.mapped w)).result = .ok () := by
      rw [hfirst]
    have hrest := ih (w := { w with file := w.file.setWord v.1.toNat v.2 }) hstart
      fun u hu => h u (List.mem_cons_of_mem v hu)
    rw [List.map_cons, Action.sequence, Action.bind_of_ok hok, hfirst, hrest]
    rfl

/-- **All of a start's writes are carried out, or none**: the first register written is the last one in memory. -/
theorem state_program (s : Start) {w : MappedWindow} (hstart : w.start = 0) :
    (Action.sequence (s.writes.map fun (offset, value) =>
      (RegisterBackend.write offset value : Action BoardBackend Unit)) (.mapped w)).state =
      .mapped (w.programmed s) := by
  unfold programmed
  split
  · rename_i hroom
    rw [sequence_write s.writes hstart fun v hv => (w.check_eq_ok_iff v.1).2 ?_]
    · rfl
    · have hrange := Start.mem_writes_range hv
      omega
  · rename_i hroom
    have hcheck : w.check DmaRegister.channel ≠ .ok () := by
      rw [ne_eq, check_eq_ok_iff]
      have hoffset : DmaRegister.channel.toNat = 0x12C := by decide
      omega
    cases he : w.check DmaRegister.channel with
    | ok _ => exact absurd he hcheck
    | error e =>
      have hfirst : ∀ value, (RegisterBackend.write DmaRegister.channel value : Action BoardBackend Unit) (.mapped w) =
          { result := .error e, state := .mapped w } := by
        intro value
        simp only [RegisterBackend.write, BoardBackend.act, Action.on, write, he]
      simp only [Start.writes, List.map_cons, Action.sequence]
      rw [Action.bind_of_error (by rw [hfirst]), hfirst]

end MappedWindow

/-! ## The window behind a BAR -/

/-- the window of a backend onto a resource file -/
def BoardBackend.mapped? : BoardBackend → Option MappedWindow
  | mapped w => some w
  | _ => none

namespace RegisterTable

variable {α β : Type} {t : RegisterTable BoardBackend} {w : MappedWindow}

def window? (t : RegisterTable BoardBackend) (bar : Nat) : Option MappedWindow :=
  (t.bank? bar).bind fun b => b.backend.bind BoardBackend.mapped?

theorem window?_eq_some_iff (bar : Nat) :
    t.window? bar = some w ↔ ∃ b, t.banks[bar]? = some b ∧ b.backend = some (.mapped w) := by
  simp only [window?, bank?, Option.bind_eq_some_iff]
  refine exists_congr fun b => and_congr_right fun _ => ⟨?_, fun h => ⟨.mapped w, h, rfl⟩⟩
  rintro ⟨backend, hb, hw⟩
  cases backend <;> cases hw
  exact hb

theorem window?_setBank_of_ne {bar other : Nat} (h : other ≠ bar) (b : RegisterBank BoardBackend) :
    (t.setBank other b).window? bar = t.window? bar := by
  simp only [window?, bank?, setBank, List.getElem?_set_ne h]

theorem window?_setBank {bar : Nat} {b : RegisterBank BoardBackend} (hb : t.banks[bar]? = some b)
    (backend : BoardBackend) :
    (t.setBank bar { b with backend := some backend }).window? bar = backend.mapped? := by
  have hlt := (List.getElem?_eq_some_iff.1 hb).1
  simp [window?, bank?, setBank, List.getElem?_set_self hlt]

/-! ## Guarded accesses of a PCIe board -/

/-- whatever the arguments are, the step leaves the window behind BAR 0 of a PCIe board as it is -/
def Spares (x : Action (RegisterTable BoardBackend) α) : Prop :=
  ∀ t w, t.mode = .pcie → t.window? 0 = some w → (x t).state.mode = .pcie ∧ (x t).state.window? 0 = some w

theorem spares_pure (a : α) : Spares (Action.pure a) := fun _ _ hm hw => ⟨hm, hw⟩

theorem spares_fail (e : Error) : Spares (Action.fail (α := α) e) := fun _ _ hm hw => ⟨hm, hw⟩

theorem Spares.bind {x : Action (RegisterTable BoardBackend) α} {f : α → Action (RegisterTable BoardBackend) β}
    (hx : Spares x) (hf : ∀ a, Spares (f a)) : Spares (Action.bind x f) := by
  intro t w hm hw
  obtain ⟨hm', hw'⟩ := hx t w hm hw
  cases hr : (x t).result with
  | error e =>
    rw [Action.bind_of_error hr]
    exact ⟨hm', hw'⟩
  | ok a =>
    rw [Action.bind_of_ok hr]
    exact hf a _ w hm' hw'

/-- a guarded step spares the window if it does nothing to a window that it is let into -/
theorem spares_guarded {bar : Nat} {kind : AccessKind} {offset : UInt32} {x : Action BoardBackend α}
    (hx : Mode.pcie.Grants 0 kind → ∀ w, (x (.mapped w)).state = .mapped w) :
    Spares (guarded bar kind offset (RegisterBank.onBackend x)) := by
  intro t w hm hw
  rcases t.refuses_or_admits bar kind offset with ⟨⟨e, he, -⟩, -⟩ | ⟨-, b, s, ha⟩
  · rw [guarded_of_refuses _ he]
    exact ⟨hm, hw⟩
  · rw [guarded_of_admits _ ha]
    refine ⟨hm, ?_⟩
    by_cases hbar : bar = 0
    · subst hbar
      obtain ⟨b', hb, hs⟩ := (window?_eq_some_iff 0).1 hw
      cases ha.bank.symm.trans hb
      cases ha.backend.symm.trans hs
      have hgranted := ha.granted
      rw [hm] at hgranted
      dsimp only
      rw [hx hgranted w, window?_setBank ha.bank]
      rfl
    · rw [window?_setBank_of_ne hbar]
      exact hw

/-- user space may not write BAR 0 of a PCIe board -/
theorem not_grants_pcie {kind : AccessKind} (h : kind = .write ∨ kind = .modify) : ¬ Mode.pcie.Grants 0 kind := by
  rw [← Mode.permits_iff]
  rcases h with rfl | rfl <;> decide

theorem spares_read (bar : Nat) (offset : UInt32) : Spares (read bar offset : Action _ UInt32) := by
  refine spares_guarded fun _ w => ?_
  simp only [RegisterBackend.read, BoardBackend.act, Action.on, MappedWindow.state_read]

theorem spares_write (bar : Nat) (offset value : UInt32) : Spares (write bar offset value) :=
  spares_guarded fun h => absurd h (not_grants_pcie (.inl rfl))

theorem spares_modify (bar : Nat) (offset clear set : UInt32) : Spares (modify bar offset clear set) :=
  spares_guarded fun h => absurd h (not_grants_pcie (.inr rfl))

theorem spares_setMode (bar : Nat) (offset mode : UInt32) : Spares (setMode bar offset mode) :=
  spares_guarded fun _ _ => rfl

theorem spares_readRange (bar : Nat) (offset : UInt32) (count : Nat) : Spares (readRange bar offset count) :=
  readRange_of_read (P := Spares) spares_pure spares_fail Spares.bind (spares_read bar) offset count

theorem UserAccess.spares {x : Action (RegisterTable BoardBackend) α} (h : UserAccess x) : Spares x := by
  cases h with
  | read bar offset => exact spares_read bar offset
  | readRange bar offset count => exact spares_readRange bar offset count
  | write bar offset value => exact spares_write bar offset value
  | modify bar offset clear set => exact spares_modify bar offset clear set
  | setMode bar offset mode => exact spares_setMode bar offset mode

/-- the board's engine goes past the guard -/
theorem window?_program {bar : Nat} (hw : t.window? bar = some w) (hstart : w.start = 0) (s : Start) :
    ∃ o, t.onBank? bar s.program = some o ∧ o.state.mode = t.mode ∧ o.state.window? bar = some (w.programmed s) := by
  obtain ⟨b, hb, hbackend⟩ := (window?_eq_some_iff bar).1 hw
  refine ⟨Action.on b (t.setBank bar) s.program, ?_, rfl, ?_⟩
  · simp only [onBank?, bank?, hb, Option.map_some]
  · simp only [Action.on, Start.program, RegisterBank.writeSequence, RegisterBank.onBackend, hbackend]
    rw [window?_setBank hb, MappedWindow.state_program s hstart]
    rfl

end RegisterTable
end BoardDriver

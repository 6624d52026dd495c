/-
One access of what is behind a BAR of a board: simulated registers, or a window onto a file.

- `state_read`, `kind_of_mem_events_read`: a read changes nothing and reports nothing but itself;
- `write_cases`: a write replaces the value of a register, or a word of the file, or it does nothing at all;
- `BoardBackend.write_of_error`: so does every write that fails;
- `BoardBackend.modify_of_error`: a modification that fails has done nothing but read.
-/
import BoardDriver.Proofs.MappedMemory

namespace BoardDriver

/-! ## Simulated registers -/

namespace RegisterFile

@[simp] theorem state_read (offset : UInt32) (f : RegisterFile) : (read offset f).state = f := by
  unfold read
  split
  · rfl
  · split <;> rfl

theorem kind_of_mem_events_read {offset : UInt32} {f : RegisterFile} {e : Event} (h : e ∈ (read offset f).events) :
    e.payload.kind = .registerRead := by
  unfold read at h
  split at h
  · cases h
  · split at h
    · split at h
      · rw [List.mem_singleton.1 h]
        rfl
      · cases h
    · cases h

/-- a write replaces the value of a register, or it fails and does nothing -/
theorem write_cases (offset value : UInt32) (f : RegisterFile) :
    (∃ r, f.registers[indexOf offset]? = some r ∧ (write offset value f).result = .ok () ∧
        (write offset value f).state = f.put offset { r with value := value }) ∨
      ∃ e, write offset value f = { result := .error e, state := f } := by
  unfold write register
  cases f.registers[indexOf offset]? with
  | none => exact .inr ⟨_, rfl⟩
  | some r =>
    dsimp only
    split
    · exact .inl ⟨r, rfl, rfl, rfl⟩
    · exact .inr ⟨_, rfl⟩

theorem write_of_error {offset value : UInt32} {f : RegisterFile} {e : Error}
    (h : (write offset value f).result = .error e) : write offset value f = { result := .error e, state := f } := by
  rcases write_cases offset value f with ⟨r, -, hok, -⟩ | ⟨e', he'⟩
  · rw [hok] at h
    cases h
  · rw [he'] at h ⊢
    cases h
    rfl

theorem state_setMode_of_error {offset mode : UInt32} {f : RegisterFile} {e : Error}
    (h : (setMode offset mode f).result = .error e) : (setMode offset mode f).state = f := by
  unfold setMode at h ⊢
  split
  · rfl
  · rename_i r hr
    rw [hr] at h
    cases h

end RegisterFile

/-! ## Windows -/

namespace MappedWindow

theorem events_read (offset : UInt32) (w : MappedWindow) : (read offset w).events = [] := by
  unfold read
  split <;> rfl

/-- a write puts a word into the file, or it fails and does nothing -/
theorem write_cases (offset value : UInt32) (w : MappedWindow) :
    w.check offset = .ok () ∧
        write offset value w =
          { result := .ok (), state := { w with file := w.file.setWord (w.start + offset.toNat) value } } ∨
      ∃ e, write offset value w = { result := .error e, state := w } := by
  cases hcheck : w.check offset with
  | ok u => exact .inl ⟨rfl, write_of_check value hcheck⟩
  | error e =>
    right
    simp only [write, hcheck]
    exact ⟨e, rfl⟩

theorem write_of_error {offset value : UInt32} {w : MappedWindow} {e : Error}
    (h : (write offset value w).result = .error e) : write offset value w = { result := .error e, state := w } := by
  rcases write_cases offset value w with ⟨-, hok⟩ | ⟨e', he'⟩
  · rw [hok] at h
    cases h
  · rw [he'] at h ⊢
    cases h
    rfl

end MappedWindow

/-! ## Whichever it is -/

namespace BoardBackend

variable {s : BoardBackend} {offset value : UInt32}

@[simp] theorem state_read (offset : UInt32) (s : BoardBackend) :
    (RegisterBackend.read offset s : Outcome BoardBackend UInt32).state = s := by
  cases s with
  | simulated f => exact congrArg simulated (f.state_read offset)
  | mapped w => exact congrArg mapped (w.state_read offset)
  | memoryBus w => exact congrArg memoryBus (w.state_read offset)

theorem kind_of_mem_events_read {e : Event}
    (h : e ∈ (RegisterBackend.read offset s : Outcome BoardBackend UInt32).events) :
    e.payload.kind = .registerRead := by
  cases s with
  | simulated f => exact RegisterFile.kind_of_mem_events_read h
  | mapped w | memoryBus w =>
    change e ∈ (MappedWindow.read offset w).events at h
    rw [MappedWindow.events_read] at h
    cases h

/-- a write that fails has done nothing and reports nothing -/
theorem write_of_error {e : Error}
    (h : (RegisterBackend.write offset value s : Outcome BoardBackend Unit).result = .error e) :
    RegisterBackend.write offset value s = { result := .error e, state := s } := by
  cases s with
  | simulated f =>
    change Action.on f simulated (RegisterFile.write offset value) = _
    rw [Action.on, RegisterFile.write_of_error h]
  | mapped w =>
    change Action.on w mapped (MappedWindow.write offset value) = _
    rw [Action.on, MappedWindow.write_of_error h]
  | memoryBus w =>
    change Action.on w memoryBus (MappedWindow.write offset value) = _
    rw [Action.on, MappedWindow.write_of_error h]

/-- a modification that fails has changed nothing, and reports its read at most -/
theorem modify_of_error {clear set : UInt32} {e : Error}
    (h : (RegisterBackend.modify offset clear set s).result = .error e) :
    (RegisterBackend.modify offset clear set s).state = s ∧
      ∀ ev ∈ (RegisterBackend.modify offset clear set s).events, ev.payload.kind = .registerRead := by
  unfold RegisterBackend.modify at h ⊢
  cases hread : (RegisterBackend.read offset s).result with
  | error e' =>
    simp only [hread]
    exact ⟨s.state_read offset, fun ev hev => kind_of_mem_events_read hev⟩
  | ok old =>
    simp only [hread, state_read] at h ⊢
    cases hwrite : (RegisterBackend.write offset ((old &&& ~~~clear) ||| set) s).result with
    | error e' =>
      simp only [write_of_error hwrite, List.append_nil]
      exact ⟨trivial, fun ev hev => kind_of_mem_events_read hev⟩
    | ok _ =>
      rw [hwrite] at h
      cases h

end BoardBackend

/-- on a bank, a modification is that of its backend -/
theorem RegisterBank.modify_eq {β : Type} [RegisterBackend β] (offset clear set : UInt32) :
    (RegisterBank.modify offset clear set : Action (RegisterBank β) UInt32) =
      RegisterBank.onBackend (RegisterBackend.modify offset clear set) := by
  unfold RegisterBank.modify
  congr 1
  funext s
  change Action.bind (RegisterBackend.read offset) (fun old =>
    Action.bind (RegisterBackend.write offset ((old &&& ~~~clear) ||| set)) fun _ =>
      Action.pure ((old &&& ~~~clear) ||| set)) s = _
  unfold RegisterBackend.modify
  cases hread : (RegisterBackend.read offset s).result with
  | error e =>
    rw [Action.bind_of_error hread]
    simp only [hread]
    rw [← hread]
  | ok old =>
    rw [Action.bind_of_ok hread, Action.bind_pure]
    simp only [hread]

end BoardDriver

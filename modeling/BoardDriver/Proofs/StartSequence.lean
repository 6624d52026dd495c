/-
A transfer is started over registers that hold all of its descriptor, or it is not started.

The board's own engine writes six registers of its bank in order, and the last one starts the transfer. Any of the
writes may fail: the bank may be too small, a simulated register may not be writable, a backend may refuse whatever it
likes. The writes are taken in order until one fails, so the start register is written only where the five others have
been.

- `CarriedOut`: each of these writes succeeds, on what those before it have left;
- `writes_cases`: what comes of writes in order; `mem_issued_iff`: when the last of them is issued;
- `Recorded.afterWrites_eq`: each write issued is one call of the backend;
- `BoardBackend.Holds`, `BoardBackend.AlikeBut`: what a backend of a board holds at an offset, and two of them that are
alike elsewhere; `CarriedOut.alikeBut`, `CarriedOut.holds`: what writes in order do to it;
- `Start.program_cases`, `Start.exists_issues`, `Start.exists_held`: what a start comes to on any backend, and on that of
a board;
- `Start.started_last`: all of it.
-/
import BoardDriver.Proofs.BackendAccess
import BoardDriver.Proofs.StepsInOrder

namespace BoardDriver

open BoardDriver.Action (Succeed leave raised)

variable {β : Type} [RegisterBackend β]

/-! ## Writes in order -/

/-- writes, as steps of a backend -/
def writeSteps (ws : List (UInt32 × UInt32)) : List (Action β Unit) := ws.map fun w => RegisterBackend.write w.1 w.2

/-- the backend that writes leave, whether they succeed or not -/
def afterWrites (ws : List (UInt32 × UInt32)) (x : β) : β := leave (writeSteps ws) x

/-- each of these writes succeeds, on what those before it have left -/
def CarriedOut (ws : List (UInt32 × UInt32)) (x : β) : Prop := ∃ as, Succeed (writeSteps ws) x as

section

variable {x : β} {w : UInt32 × UInt32} {ws vs done rest issued : List (UInt32 × UInt32)} {e : Error}

theorem writeSteps_append (ws vs : List (UInt32 × UInt32)) :
    (writeSteps (ws ++ vs) : List (Action β Unit)) = writeSteps ws ++ writeSteps vs := List.map_append

theorem afterWrites_append (ws vs : List (UInt32 × UInt32)) (x : β) :
    afterWrites (ws ++ vs) x = afterWrites vs (afterWrites ws x) := by
  rw [afterWrites, writeSteps_append, Action.leave_append]
  rfl

theorem CarriedOut.of_append (h : CarriedOut (ws ++ vs) x) : CarriedOut ws x := by
  obtain ⟨as, has⟩ := h
  rw [writeSteps_append] at has
  obtain ⟨before, _, -, hbefore, -⟩ := has.split
  exact ⟨before, hbefore⟩

/-- so none of them fails -/
theorem CarriedOut.not_error (h : CarriedOut (done ++ w :: rest) x) :
    (RegisterBackend.write w.1 w.2 (afterWrites done x)).result ≠ .error e := by
  obtain ⟨as, has⟩ := h
  rw [writeSteps_append] at has
  obtain ⟨_, -, hok⟩ := has.answer
  intro hfails
  cases hok.symm.trans hfails

/-- all of the writes succeed, or those before the one that fails, which is the last one issued -/
theorem writes_cases (ws : List (UInt32 × UInt32)) (x : β) :
    (CarriedOut ws x ∧ Action.sequence (writeSteps ws) x =
        { result := .ok ()
          state := afterWrites ws x
          events := raised (writeSteps ws) x
          locks := Action.locking (writeSteps ws) x }) ∨
      ∃ done w rest e, ws = done ++ w :: rest ∧ CarriedOut done x ∧
        (RegisterBackend.write w.1 w.2 (afterWrites done x)).result = .error e ∧
        Action.sequence (writeSteps ws) x =
          { result := .error e
            state := afterWrites (done ++ [w]) x
            events := raised (writeSteps (done ++ [w])) x
            locks := Action.locking (writeSteps (done ++ [w])) x } := by
  rcases Action.sequence_cases (writeSteps ws) x with ⟨as, has, heq⟩ | ⟨done, y, rest, as, e, hsteps, has, hfails, heq⟩
  · exact .inl ⟨⟨as, has⟩, heq⟩
  · obtain ⟨done, later, rfl, rfl, hlater⟩ := List.map_eq_append_iff.1 hsteps
    obtain ⟨w, rest, rfl, rfl, rfl⟩ := List.map_eq_cons_iff.1 hlater
    refine .inr ⟨done, w, rest, e, rfl, ⟨as, has⟩, hfails, ?_⟩
    rw [heq, afterWrites, writeSteps_append]
    rfl

/-- the last of some writes is issued just when those before it succeed -/
theorem mem_issued_iff {first : List (UInt32 × UInt32)} {last : UInt32 × UInt32} (hlast : last ∉ first)
    (hws : first ++ [last] = done ++ w :: rest) (hdone : CarriedOut done x)
    (hfails : (RegisterBackend.write w.1 w.2 (afterWrites done x)).result = .error e) :
    last ∈ done ++ [w] ↔ CarriedOut first x := by
  rcases List.eq_nil_or_concat rest with rfl | ⟨rest, v, rfl⟩
  · -- the one that fails is the last
    obtain ⟨rfl, hw⟩ := List.append_inj' hws rfl
    cases hw
    exact ⟨fun _ => hdone, fun _ => List.mem_append_right _ (List.mem_singleton_self _)⟩
  · rw [List.concat_eq_append, ← List.cons_append, ← List.append_assoc] at hws
    obtain ⟨rfl, -⟩ := List.append_inj' hws rfl
    constructor
    · intro hmem
      refine absurd ?_ hlast
      rw [List.append_cons]
      exact List.mem_append_left rest hmem
    · exact fun h => absurd hfails h.not_error

end

/-! ## The calls of a backend -/

namespace Recorded

/-- each write issued is one call of the backend, in order -/
theorem afterWrites_eq (ws : List (UInt32 × UInt32)) (r : Recorded β) :
    (afterWrites ws r).backend = afterWrites ws r.backend ∧
      (afterWrites ws r).calls = r.calls ++ ws.map fun w => .write w.1 w.2 := by
  induction ws generalizing r with
  | nil => exact ⟨rfl, (List.append_nil _).symm⟩
  | cons w ws ih =>
    have hfirst : (RegisterBackend.write w.1 w.2 r).state.calls = r.calls ++ [.write w.1 w.2] := by
      rw [call_write, calls_entered]
    obtain ⟨hbackend, hcalls⟩ := ih (RegisterBackend.write w.1 w.2 r).state
    refine ⟨hbackend, hcalls.trans ?_⟩
    rw [hfirst, List.append_assoc, List.singleton_append, List.map_cons]

/-- and it succeeds as it does on the backend -/
theorem carriedOut_iff (ws : List (UInt32 × UInt32)) (r : Recorded β) :
    CarriedOut ws r ↔ CarriedOut ws r.backend := by
  induction ws generalizing r with
  | nil => exact ⟨fun _ => ⟨[], .nil _⟩, fun _ => ⟨[], .nil _⟩⟩
  | cons w ws ih =>
    constructor
    · rintro ⟨_, has⟩
      cases has with
      | cons ha hrest =>
        obtain ⟨bs, hbs⟩ := (ih _).1 ⟨_, hrest⟩
        exact ⟨_, .cons ha hbs⟩
    · rintro ⟨_, has⟩
      cases has with
      | cons ha hrest =>
        obtain ⟨bs, hbs⟩ := (ih (RegisterBackend.write w.1 w.2 r).state).2 ⟨_, hrest⟩
        exact ⟨_, .cons ha hbs⟩

end Recorded

/-! ## The registers of a board -/

namespace RegisterFile

/-- the same registers, except for the values of those at some offsets -/
structure AlikeBut (offsets : List UInt32) (f g : RegisterFile) : Prop where
  bar : g.bar = f.bar
  modes : ∀ k : Nat, (g.registers[k]?).map Register.mode = (f.registers[k]?).map Register.mode
  elsewhere : ∀ k : Nat, (∀ offset ∈ offsets, indexOf offset ≠ k) → g.registers[k]? = f.registers[k]?

namespace AlikeBut

variable {os ps : List UInt32} {f g h : RegisterFile}

theorem refl (os : List UInt32) (f : RegisterFile) : AlikeBut os f f := ⟨rfl, fun _ => rfl, fun _ _ => rfl⟩

theorem trans (hfg : AlikeBut os f g) (hgh : AlikeBut ps g h) : AlikeBut (os ++ ps) f h where
  bar := hgh.bar.trans hfg.bar
  modes k := (hgh.modes k).trans (hfg.modes k)
  elsewhere k hk := by
    obtain ⟨hos, hps⟩ := List.forall_mem_append.1 hk
    exact (hgh.elsewhere k hps).trans (hfg.elsewhere k hos)

/-- a register with another value -/
theorem put {offset value : UInt32} {r : Register} (hr : f.registers[indexOf offset]? = some r) :
    AlikeBut [offset] f (f.put offset { r with value := value }) where
  bar := rfl
  modes k := by
    have hlt := (Array.getElem?_eq_some_iff.1 hr).1
    rw [RegisterFile.put]
    by_cases hk : indexOf offset = k
    · rw [← hk, Array.getElem?_setIfInBounds_self_of_lt hlt, hr]
      rfl
    · rw [Array.getElem?_setIfInBounds_ne hk]
  elsewhere k hk := Array.getElem?_setIfInBounds_ne (hk offset (List.mem_singleton_self offset))

end AlikeBut

/-- a write that succeeds changes one value -/
theorem write_of_ok {offset value : UInt32} {f : RegisterFile} (h : (write offset value f).result = .ok ()) :
    let g := (write offset value f).state
    AlikeBut [offset] f g ∧ (g.registers[indexOf offset]?).map Register.value = some value := by
  rcases f.write_cases offset value with ⟨r, hr, -, hstate⟩ | ⟨e, he⟩
  · have hlt := (Array.getElem?_eq_some_iff.1 hr).1
    dsimp only
    rw [hstate]
    refine ⟨.put hr, ?_⟩
    rw [RegisterFile.put, Array.getElem?_setIfInBounds_self_of_lt hlt]
    rfl
  · rw [he] at h
    cases h

end RegisterFile

namespace MappedWindow

/-- the same window, except for the words at some offsets -/
structure AlikeBut (offsets : List UInt32) (w v : MappedWindow) : Prop where
  window : v = { w with file := v.file }
  length : v.file.length = w.file.length
  elsewhere : ∀ i, (∀ offset ∈ offsets, i < w.start + offset.toNat ∨ w.start + offset.toNat + 4 ≤ i) →
    v.file.byte i = w.file.byte i

namespace AlikeBut

variable {os ps : List UInt32} {u v w : MappedWindow}

theorem refl (os : List UInt32) (w : MappedWindow) : AlikeBut os w w := ⟨rfl, rfl, fun _ _ => rfl⟩

theorem start (h : AlikeBut os w v) : v.start = w.start := by rw [h.window]

theorem trans (hwv : AlikeBut os w v) (hvu : AlikeBut ps v u) : AlikeBut (os ++ ps) w u where
  window := by
    rw [hvu.window, hwv.window]
  length := hvu.length.trans hwv.length
  elsewhere i hi := by
    obtain ⟨hos, hps⟩ := List.forall_mem_append.1 hi
    rw [← hwv.start] at hps
    exact (hvu.elsewhere i hps).trans (hwv.elsewhere i hos)

/-- a word is put at an offset -/
theorem setWord (offset value : UInt32) (w : MappedWindow) :
    AlikeBut [offset] w { w with file := w.file.setWord (w.start + offset.toNat) value } where
  window := rfl
  length := w.file.length_setWord _ _
  elsewhere _ hi := w.file.byte_setWord_of_apart value (hi offset (List.mem_singleton_self offset))

/-- the words elsewhere are the same -/
theorem word (h : AlikeBut os w v) {offset : UInt32}
    (apart : ∀ o ∈ os, o.toNat + 4 ≤ offset.toNat ∨ offset.toNat + 4 ≤ o.toNat) :
    v.file.word (v.start + offset.toNat) = w.file.word (w.start + offset.toNat) := by
  have hbyte : ∀ k < 4, v.file.byte (w.start + offset.toNat + k) = w.file.byte (w.start + offset.toNat + k) := by
    intro k hk
    refine h.elsewhere _ fun o ho => ?_
    have hapart := apart o ho
    omega
  have hzero := hbyte 0 (by omega)
  rw [Nat.add_zero] at hzero
  rw [h.start, Memory.word, Memory.word, hzero, hbyte 1 (by omega), hbyte 2 (by omega), hbyte 3 (by omega)]

end AlikeBut

/-- a write that succeeds changes one word -/
theorem write_of_ok {offset value : UInt32} {w : MappedWindow} (h : (write offset value w).result = .ok ()) :
    let v := (write offset value w).state
    AlikeBut [offset] w v ∧ v.file.word (v.start + offset.toNat) = value := by
  rcases w.write_cases offset value with ⟨-, hok⟩ | ⟨e, he⟩
  · rw [hok]
    exact ⟨.setWord offset value w, w.file.word_setWord _ value⟩
  · rw [he] at h
    cases h

end MappedWindow

namespace BoardBackend

/-- the register at an offset holds a value -/
def Holds (s : BoardBackend) (offset value : UInt32) : Prop :=
  match s with
  | simulated f => (f.registers[RegisterFile.indexOf offset]?).map Register.value = some value
  | mapped w | memoryBus w => w.file.word (w.start + offset.toNat) = value

/-- the same backend, except for what it holds at some offsets -/
inductive AlikeBut (offsets : List UInt32) : BoardBackend → BoardBackend → Prop
  | simulated {f g : RegisterFile} : f.AlikeBut offsets g → AlikeBut offsets (simulated f) (simulated g)
  | mapped {w v : MappedWindow} : w.AlikeBut offsets v → AlikeBut offsets (mapped w) (mapped v)
  | memoryBus {w v : MappedWindow} : w.AlikeBut offsets v → AlikeBut offsets (memoryBus w) (memoryBus v)

variable {os ps : List UInt32} {s t u : BoardBackend} {offset value : UInt32}

namespace AlikeBut

theorem refl (os : List UInt32) (s : BoardBackend) : AlikeBut os s s := by
  cases s with
  | simulated f => exact .simulated (.refl os f)
  | mapped w => exact .mapped (.refl os w)
  | memoryBus w => exact .memoryBus (.refl os w)

theorem trans (hst : AlikeBut os s t) (htu : AlikeBut ps t u) : AlikeBut (os ++ ps) s u := by
  cases hst with
  | simulated hfg =>
    cases htu with
    | simulated hgh => exact .simulated (hfg.trans hgh)
  | mapped hwv =>
    cases htu with
    | mapped hvu => exact .mapped (hwv.trans hvu)
  | memoryBus hwv =>
    cases htu with
    | memoryBus hvu => exact .memoryBus (hwv.trans hvu)

/-- what is held elsewhere is still held -/
theorem holds (h : AlikeBut os s t)
    (apart : ∀ o ∈ os, o.toNat + 4 ≤ offset.toNat ∨ offset.toNat + 4 ≤ o.toNat) (hs : s.Holds offset value) :
    t.Holds offset value := by
  cases h with
  | @simulated f g hfg =>
    have hindex : ∀ o ∈ os, RegisterFile.indexOf o ≠ RegisterFile.indexOf offset := by
      intro o ho
      have hapart := apart o ho
      simp only [RegisterFile.indexOf, registerBytes, ne_eq]
      omega
    exact (congrArg _ (hfg.elsewhere _ hindex)).trans hs
  | mapped hwv => exact (hwv.word apart).trans hs
  | memoryBus hwv => exact (hwv.word apart).trans hs

end AlikeBut

/-- a write that succeeds is held, and the rest is the same -/
theorem write_of_ok (h : (RegisterBackend.write offset value s : Outcome BoardBackend Unit).result = .ok ()) :
    let t := (RegisterBackend.write offset value s : Outcome BoardBackend Unit).state
    AlikeBut [offset] s t ∧ t.Holds offset value := by
  cases s with
  | simulated f =>
    obtain ⟨halike, hvalue⟩ := RegisterFile.write_of_ok h
    exact ⟨.simulated halike, hvalue⟩
  | mapped w =>
    obtain ⟨halike, hword⟩ := MappedWindow.write_of_ok h
    exact ⟨.mapped halike, hword⟩
  | memoryBus w =>
    obtain ⟨halike, hword⟩ := MappedWindow.write_of_ok h
    exact ⟨.memoryBus halike, hword⟩

end BoardBackend

/-- writes that succeed change what is held at their offsets and nothing else -/
theorem CarriedOut.alikeBut {ws : List (UInt32 × UInt32)} {x : BoardBackend} (h : CarriedOut ws x) :
    x.AlikeBut (ws.map Prod.fst) (afterWrites ws x) := by
  induction ws generalizing x with
  | nil => exact .refl [] x
  | cons w ws ih =>
    obtain ⟨_, has⟩ := h
    cases has with
    | cons hw hrest => exact (BoardBackend.write_of_ok hw).1.trans (ih ⟨_, hrest⟩)

/-- and each of them is held if they lie apart -/
theorem CarriedOut.holds {ws : List (UInt32 × UInt32)} {x : BoardBackend}
    (apart : ws.Pairwise fun v w => v.1.toNat + 4 ≤ w.1.toNat ∨ w.1.toNat + 4 ≤ v.1.toNat) (h : CarriedOut ws x) :
    ∀ w ∈ ws, (afterWrites ws x).Holds w.1 w.2 := by
  induction ws generalizing x with
  | nil => exact fun w hw => absurd hw List.not_mem_nil
  | cons v ws ih =>
    obtain ⟨hfirst, hlater⟩ := List.pairwise_cons.1 apart
    obtain ⟨_, has⟩ := h
    cases has with
    | cons hv hrest =>
      intro w hw
      rcases List.mem_cons.1 hw with rfl | hw
      · have hkept : CarriedOut ws (RegisterBackend.write w.1 w.2 x).state := ⟨_, hrest⟩
        refine hkept.alikeBut.holds (fun o ho => ?_) (BoardBackend.write_of_ok hv).2
        obtain ⟨u, hu, rfl⟩ := List.mem_map.1 ho
        exact (hfirst u hu).symm
      · exact ih hlater ⟨_, hrest⟩ w hw

/-- a write that fails changes nothing -/
theorem afterWrites_of_fails {done : List (UInt32 × UInt32)} {w : UInt32 × UInt32} {x : BoardBackend} {e : Error}
    (h : (RegisterBackend.write w.1 w.2 (afterWrites done x)).result = .error e) :
    afterWrites (done ++ [w]) x = afterWrites done x := by
  rw [afterWrites_append]
  exact congrArg Outcome.state (BoardBackend.write_of_error h)

/-! ## The start of a transfer -/

namespace Start

/-- the start register is written last, and only then -/
theorem writes_eq (s : Start) :
    s.writes = s.writes.take 5 ++ [(DmaRegister.start, 1)] ∧ (DmaRegister.start, 1) ∉ s.writes.take 5 := by
  refine ⟨rfl, fun h => ?_⟩
  have hoffset : DmaRegister.start ∈ offsets.take 5 := List.mem_map_of_mem (f := Prod.fst) h
  exact absurd hoffset (by decide)

theorem program_eq (s : Start) :
    (s.program : Action (RegisterBank β) Unit) =
      RegisterBank.onBackend (Action.sequence (writeSteps s.writes)) := rfl

/-- the bank is locked once, for all the writes -/
theorem program_of_backend (s : Start) {b : RegisterBank β} {x : β} (hb : b.backend = some x) :
    s.program b =
      { Action.on x (fun y => { b with backend := some y }) (Action.sequence (writeSteps s.writes)) with locks := 1 } := by
  simp only [program_eq, RegisterBank.onBackend, hb]

theorem toNat_channel (s : Start) : (UInt32.ofNat (wordSize s.channel)).toNat = min s.channel (UInt32.size - 1) := by
  have hlt : wordSize s.channel < UInt32.size := by
    have : UInt32.size = 2 ^ 32 := rfl
    unfold wordSize
    omega
  rw [UInt32.toNat_ofNat_of_lt' hlt, wordSize]

/-- what a start comes to: it is all written, or up to the write that fails -/
theorem program_cases (s : Start) {b : RegisterBank β} {x : β} (hb : b.backend = some x) :
    (CarriedOut s.writes x ∧
        s.program b =
          { result := .ok (), state := { b with backend := some (afterWrites s.writes x) }
            events := raised (writeSteps s.writes) x, locks := 1 }) ∨
      ∃ done w rest e, s.writes = done ++ w :: rest ∧ CarriedOut done x ∧
        (RegisterBackend.write w.1 w.2 (afterWrites done x)).result = .error e ∧
        s.program b =
          { result := .error e, state := { b with backend := some (afterWrites (done ++ [w]) x) }
            events := raised (writeSteps (done ++ [w])) x, locks := 1 } := by
  rw [s.program_of_backend hb, Action.on]
  rcases writes_cases s.writes x with ⟨hall, heq⟩ | ⟨done, w, rest, e, hws, hdone, hfails, heq⟩
  · exact .inl ⟨hall, by rw [heq]⟩
  · exact .inr ⟨done, w, rest, e, hws, hdone, hfails, by rw [heq]⟩

/-- what a start does to a backend: these writes are issued, and this is the answer -/
structure Issues (s : Start) (x : β) (issued : List (UInt32 × UInt32)) (result : Except Error Unit) : Prop where
  in_order : issued <+: s.writes
  all : result = .ok () → issued = s.writes
  ok_iff : result = .ok () ↔ CarriedOut s.writes x
  broken : ∀ e, result = .error e → ∃ done w, issued = done ++ [w] ∧ CarriedOut done x ∧
    (RegisterBackend.write w.1 w.2 (afterWrites done x)).result = .error e
  last : (DmaRegister.start, 1) ∈ issued ↔ CarriedOut (s.writes.take 5) x

theorem exists_issues (s : Start) {b : RegisterBank β} {x : β} (hb : b.backend = some x) :
    ∃ issued, (s.program b).state = { b with backend := some (afterWrites issued x) } ∧
      (s.program b).events = raised (writeSteps issued) x ∧ s.Issues x issued (s.program b).result := by
  obtain ⟨hwrites, hnot⟩ := s.writes_eq
  rcases s.program_cases hb with ⟨hall, heq⟩ | ⟨done, w, rest, e, hws, hdone, hfails, heq⟩
  · rw [heq]
    refine ⟨s.writes, rfl, rfl, List.prefix_rfl, fun _ => rfl, iff_of_true rfl hall, nofun, iff_of_true ?_ ?_⟩
    · rw [hwrites]
      exact List.mem_append_right _ (List.mem_singleton_self _)
    · rw [hwrites] at hall
      exact hall.of_append
  · rw [heq]
    refine ⟨done ++ [w], rfl, rfl, ⟨rest, ?_⟩, nofun, iff_of_false nofun ?_, ?_, ?_⟩
    · rw [hws, List.append_assoc, List.singleton_append]
    · rw [hws]
      exact fun hall => hall.not_error hfails
    · rintro _ ⟨⟩
      exact ⟨done, w, rfl, hdone, hfails⟩
    · exact mem_issued_iff hnot (hwrites.symm.trans hws) hdone hfails

/-- what is said of a backend with its record is said of the backend -/
theorem Issues.of_recorded {s : Start} {r : Recorded β} {issued : List (UInt32 × UInt32)} {result : Except Error Unit}
    (h : s.Issues r issued result) : s.Issues r.backend issued result where
  in_order := h.in_order
  all := h.all
  ok_iff := h.ok_iff.trans (Recorded.carriedOut_iff s.writes r)
  broken e he := by
    obtain ⟨done, w, hissued, hdone, hfails⟩ := h.broken e he
    refine ⟨done, w, hissued, (Recorded.carriedOut_iff done r).1 hdone, ?_⟩
    rw [← (Recorded.afterWrites_eq done r).1]
    exact hfails
  last := h.last.trans (Recorded.carriedOut_iff (s.writes.take 5) r)

/-- on the backend of a board, what is written and succeeds is held, and nothing else has changed -/
theorem exists_held (s : Start) {b : RegisterBank BoardBackend} {x : BoardBackend} (hb : b.backend = some x) :
    ∃ done y, (s.program b).state = { b with backend := some y } ∧ done <+: s.writes ∧ CarriedOut done x ∧
      x.AlikeBut (done.map Prod.fst) y ∧ (∀ w ∈ done, y.Holds w.1 w.2) ∧
      ((s.program b).result = .ok () → done = s.writes) ∧
      ∀ e, (s.program b).result = .error e →
        ∃ w, done ++ [w] <+: s.writes ∧ (RegisterBackend.write w.1 w.2 y).result = .error e := by
  have held : ∀ done, done <+: s.writes → CarriedOut done x →
      x.AlikeBut (done.map Prod.fst) (afterWrites done x) ∧ ∀ w ∈ done, (afterWrites done x).Holds w.1 w.2 :=
    fun done hprefix hdone => ⟨hdone.alikeBut, hdone.holds (s.pairwise_writes.sublist hprefix.sublist)⟩
  rcases s.program_cases hb with ⟨hall, heq⟩ | ⟨done, w, rest, e, hws, hdone, hfails, heq⟩
  · obtain ⟨halike, hholds⟩ := held s.writes List.prefix_rfl hall
    rw [heq]
    exact ⟨s.writes, _, rfl, List.prefix_rfl, hall, halike, hholds, fun _ => rfl, nofun⟩
  · have hissued : done ++ [w] <+: s.writes := ⟨rest, by rw [hws, List.append_assoc, List.singleton_append]⟩
    have hprefix : done <+: s.writes := (List.prefix_append done [w]).trans hissued
    obtain ⟨halike, hholds⟩ := held done hprefix hdone
    rw [heq, afterWrites_of_fails hfails]
    refine ⟨done, _, rfl, hprefix, hdone, halike, hholds, nofun, ?_⟩
    rintro _ ⟨⟩
    exact ⟨w, hissued, hfails⟩

/-- **A transfer is started only over registers that hold its descriptor.** For every channel and every descriptor:
- a start writes the channel, the source, the destination, 0 for down or 1 for up, the length, and then 1 to the start
register; a channel that does not fit into 32 bits is written as the greatest number that does;
- the bank is locked once for all of this; one without a backend is refused, is not locked and stays as it is;
- any backend receives the first of these writes, up to the one that fails, whose error is the answer; the start
register is written just when the five others have been, and the start succeeds just when all six have been;
- on the backend of a board, with any modes and of any size, the writes that succeed are held by their registers, and
nothing else has changed; these are all six if the start succeeds, and otherwise those before the one that fails. -/
theorem started_last (s : Start) :
    (∃ channel : UInt32, channel.toNat = min s.channel (UInt32.size - 1) ∧
      s.writes = [(DmaRegister.channel, channel), (DmaRegister.source, s.descriptor.source),
        (DmaRegister.destination, s.descriptor.destination),
        (DmaRegister.direction, if s.descriptor.direction = .down then 0 else 1),
        (DmaRegister.length, s.descriptor.length), (DmaRegister.start, 1)]) ∧
    (∀ {β : Type} [RegisterBackend β] (b : RegisterBank β),
      (b.isEnabled → (s.program b).locks = 1) ∧
      (¬ b.isEnabled →
        s.program b = { result := .error (.barDisabled (wordSize b.bar)), state := b, events := [], locks := 0 })) ∧
    (∀ {β : Type} [RegisterBackend β] (b : RegisterBank (Recorded β)) (r : Recorded β), b.backend = some r →
      ∃ issued r', (s.program b).state = { b with backend := some r' } ∧
        (s.program b).events = raised (writeSteps issued) r ∧ s.Issues r.backend issued (s.program b).result ∧
        r'.backend = afterWrites issued r.backend ∧
        r'.calls = r.calls ++ issued.map fun w => .write w.1 w.2) ∧
    ∀ (b : RegisterBank BoardBackend) (x : BoardBackend), b.backend = some x →
      ∃ done y, (s.program b).state = { b with backend := some y } ∧ done <+: s.writes ∧ CarriedOut done x ∧
        x.AlikeBut (done.map Prod.fst) y ∧ (∀ w ∈ done, y.Holds w.1 w.2) ∧
        ((s.program b).result = .ok () → done = s.writes) ∧
        ∀ e, (s.program b).result = .error e →
          ∃ w, done ++ [w] <+: s.writes ∧ (RegisterBackend.write w.1 w.2 y).result = .error e := by
  refine ⟨⟨_, s.toNat_channel, ?_⟩, fun {β} _ b => ⟨fun hb => ?_, fun hb => ?_⟩, fun {β} _ b r hb => ?_,
    fun b x hb => ?_⟩
  · unfold writes
    cases s.descriptor.direction <;> rfl
  · obtain ⟨x, hx⟩ := Option.isSome_iff_exists.1 hb
    rw [s.program_of_backend hx]
  · have hnone : b.backend = none := Option.not_isSome_iff_eq_none.1 hb
    simp only [program_eq, RegisterBank.onBackend, hnone]
  · obtain ⟨issued, hstate, hevents, hissues⟩ := s.exists_issues hb
    obtain ⟨hbackend, hcalls⟩ := Recorded.afterWrites_eq issued r
    exact ⟨issued, _, hstate, hevents, hissues.of_recorded, hbackend, hcalls⟩
  · exact s.exists_held hb

def upOnThree : Start where
  channel := 3
  ticket := ⟨1⟩
  descriptor := { source := 0x1000, destination := 0x2000, length := 64, direction := .up }

/-- a bank whose backend refuses the length -/
def lengthRefused : RegisterBank (Recorded SparseRegisters) :=
  .ofBackend 0 (some { backend := { size := 4096, refused := [DmaRegister.length] } })

/-- the smallest simulated bank with room for all six registers -/
def smallestBank : RegisterBank BoardBackend := .ofBackend 0 (some (.simulated (.fresh 0 76)))

/-- where the length is refused, the start register is not written; the smallest bank holds the whole transfer -/
theorem started_last_lengthRefused :
    (∃ r, (upOnThree.program lengthRefused).state = { lengthRefused with backend := some r } ∧
      .write DmaRegister.start 1 ∉ r.calls) ∧
    ¬ CarriedOut (upOnThree.writes.take 5) ({ size := 4096, refused := [DmaRegister.length] } : SparseRegisters) ∧
    ∃ y, (upOnThree.program smallestBank).state = { smallestBank with backend := some y } ∧
      ∀ w ∈ upOnThree.writes, y.Holds w.1 w.2 := by
  obtain ⟨-, -, hany, hboard⟩ := started_last upOnThree
  obtain ⟨issued, r, hstate, -, hissues, -, hcalls⟩ := hany lengthRefused _ rfl
  have hreceived : (upOnThree.program lengthRefused).state.backend.map Recorded.calls =
      some [.write DmaRegister.channel 3, .write DmaRegister.source 0x1000, .write DmaRegister.destination 0x2000,
        .write DmaRegister.direction 1, .write DmaRegister.length 64] := by rfl
  rw [hstate] at hreceived
  have hnot : BackendCall.write DmaRegister.start 1 ∉ r.calls := by
    rw [Option.some.inj hreceived]
    decide
  refine ⟨⟨r, hstate, hnot⟩, fun hfive => hnot ?_, ?_⟩
  · rw [hcalls]
    exact List.mem_append_right _ (List.mem_map_of_mem (hissues.last.2 hfive))
  · obtain ⟨done, y, hdone, -, -, -, hholds, hall, -⟩ := hboard smallestBank _ rfl
    obtain rfl := hall rfl
    exact ⟨y, hdone, hholds⟩

end Start
end BoardDriver

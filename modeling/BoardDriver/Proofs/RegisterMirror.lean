/-
The simulated board's registers behave like a file of zeros that is mapped.

The two are kept in different ways. A simulated BAR is an array of words with a mode each, and offset `o` is looked up
at `o / 4`. A mapped BAR is a row of bytes, and the word lies at `o` itself. Each finds its own bounds and its own size. No
access at a multiple of 4 can tell them apart, inside the bounds or outside, as long as nobody changes a mode.

- `RegisterFile.Mirrors`: registers in their initial modes, with the words of a file as their values;
- `Action.Agree`: two steps that answer alike, report nothing and keep a relation between two states; such steps may be
  put together;
- `RegisterFile.agree_read`, `RegisterFile.agree_write`: one access of the two backends;
- `BankAccess.agree_on`, `RegisterBank.Pairs.trace`: one operation of two banks, then any number of them;
- `RegisterBank.trace_fresh_eq_trace_zeros`: the two banks, from the start.
-/
import BoardDriver.Proofs.MappedMemory

namespace BoardDriver

/-! ## Steps that agree -/

/-- two steps have come to the same answer without reporting anything, and to states that are related -/
structure Outcome.Agrees {σ τ α : Type} (R : σ → τ → Prop) (o : Outcome σ α) (p : Outcome τ α) : Prop where
  result : o.result = p.result
  quiet : o.events = [] ∧ p.events = []
  state : R o.state p.state

namespace Action

variable {σ τ α β : Type} {R : σ → τ → Prop}

/-- from related states the steps cannot be told apart -/
def Agree (R : σ → τ → Prop) (x : Action σ α) (y : Action τ α) : Prop := ∀ s t, R s t → (x s).Agrees R (y t)

theorem agree_pure (a : α) : Agree R (Action.pure a) (Action.pure a) := by
  intro s t h
  exact ⟨rfl, ⟨rfl, rfl⟩, h⟩

theorem Agree.bind {x : Action σ α} {y : Action τ α} {f : α → Action σ β} {g : α → Action τ β} (hxy : Agree R x y)
    (hfg : ∀ a, Agree R (f a) (g a)) : Agree R (Action.bind x f) (Action.bind y g) := by
  intro s t h
  have first := hxy s t h
  cases hx : (x s).result with
  | error e =>
    have hy : (y t).result = .error e := first.result ▸ hx
    rw [bind_of_error hx, bind_of_error hy]
    exact ⟨rfl, first.quiet, first.state⟩
  | ok a =>
    have hy : (y t).result = .ok a := first.result ▸ hx
    have second := hfg a _ _ first.state
    rw [bind_of_ok hx, bind_of_ok hy]
    refine ⟨second.result, ⟨?_, ?_⟩, second.state⟩
    · simp only [first.quiet.1, second.quiet.1, List.append_nil]
    · simp only [first.quiet.2, second.quiet.2, List.append_nil]

/-- the first step that fails on one side is the first that fails on the other -/
theorem agree_sequence {γ : Type} {f : γ → Action σ Unit} {g : γ → Action τ Unit} (cs : List γ)
    (h : ∀ c ∈ cs, Agree R (f c) (g c)) : Agree R (sequence (cs.map f)) (sequence (cs.map g)) := by
  induction cs with
  | nil => exact agree_pure ()
  | cons c cs ih =>
    apply (h c List.mem_cons_self).bind
    intro _
    exact ih fun d hd => h d (List.mem_cons_of_mem c hd)

end Action

/-! ## One access of the two backends -/

theorem Memory.word_zeros (length i : Nat) : (zeros length).word i = 0 := by
  simp only [word, byte, zeros, List.lookup_nil, Option.getD_none]
  decide

namespace RegisterFile

/-- as many registers as fit into the file, all of them of the initial mode, with the words of the file as values -/
structure Mirrors (count : Nat) (f : RegisterFile) (w : MappedWindow) : Prop where
  size : f.registers.size = count
  start : w.start = 0
  extent : w.extent = count * registerBytes
  length : w.file.length = count * registerBytes
  registers : ∀ i < count, f.registers[i]? = some { value := w.file.word (i * registerBytes) }

namespace Mirrors

variable {count : Nat} {f : RegisterFile} {w : MappedWindow}

/-- a fresh BAR and a file of zeros -/
theorem fresh (bar count : Nat) (path : String) : Mirrors count (RegisterFile.fresh bar count)
    { path := path, start := 0, extent := count * registerBytes, file := .zeros (count * registerBytes) } where
  size := by simp only [RegisterFile.fresh, Array.size_replicate]
  start := rfl
  extent := rfl
  length := rfl
  registers := by
    intro i hi
    simp only [RegisterFile.fresh, Array.getElem?_replicate, if_pos hi, Memory.word_zeros]

theorem size_eq (m : Mirrors count f w) : f.size = w.size := by
  simp only [RegisterFile.size, MappedWindow.size, m.size, m.extent]

/-- an offset that is a multiple of 4 is where its register begins -/
theorem indexOf_mul {offset : UInt32} (ha : offset.toNat % 4 = 0) : indexOf offset * registerBytes = offset.toNat := by
  simp only [indexOf, registerBytes]
  omega

/-- the last register ends where the file ends: an offset is inside of both, or both refuse it with the same error -/
theorem cases (m : Mirrors count f w) {offset : UInt32} (ha : offset.toNat % 4 = 0) :
    (f.register offset = .ok { value := w.file.word offset.toNat } ∧ w.check offset = .ok ()) ∨
      (f.register offset = .error (.outOfRange offset.toNat w.size) ∧
        w.check offset = .error (.outOfRange offset.toNat w.size)) := by
  have hplace := indexOf_mul ha
  rcases Nat.lt_or_ge (indexOf offset) count with hin | hout
  · refine .inl ⟨?_, ?_⟩
    · simp only [register, m.registers _ hin, hplace]
    · rw [MappedWindow.check_eq_ok_iff, m.extent]
      simp only [registerBytes] at hplace ⊢
      omega
  · refine .inr ⟨?_, ?_⟩
    · rw [← m.size] at hout
      simp only [register, Array.getElem?_eq_none hout, m.size_eq]
    · have hpast : w.extent < offset.toNat + registerBytes := by
        rw [m.extent]
        simp only [registerBytes] at hplace ⊢
        omega
      have haligned : offset.toNat % registerBytes = 0 := ha
      simp only [MappedWindow.check, haligned, ne_eq, not_true_eq_false, if_false, if_pos hpast]

/-- the same word put at the same place -/
theorem put (m : Mirrors count f w) {offset : UInt32} (value : UInt32) (ha : offset.toNat % 4 = 0) :
    Mirrors count (f.put offset { value := value }) { w with file := w.file.setWord offset.toNat value } where
  size := by simp only [RegisterFile.put, Array.size_setIfInBounds, m.size]
  start := m.start
  extent := m.extent
  length := by simp only [Memory.length_setWord, m.length]
  registers := by
    intro i hi
    have hplace := indexOf_mul ha
    simp only [RegisterFile.put, Array.getElem?_setIfInBounds]
    by_cases hsame : indexOf offset = i
    · have hin : indexOf offset < f.registers.size := by rw [hsame, m.size]; exact hi
      rw [if_pos hsame, if_pos hin, ← hsame, hplace, Memory.word_setWord]
    · have hapart : i * registerBytes + 4 ≤ offset.toNat ∨ offset.toNat + 4 ≤ i * registerBytes := by
        simp only [registerBytes] at hplace ⊢
        omega
      rw [if_neg hsame, m.registers i hi, Memory.word_setWord_of_apart _ _ hapart]

/-- the contents of the two, register by register -/
theorem contents (m : Mirrors count f w) :
    f.registers.toList = (List.range count).map fun i => { value := w.file.word (i * registerBytes) } := by
  apply List.ext_getElem?
  intro i
  rw [Array.getElem?_toList]
  rcases Nat.lt_or_ge i count with hi | hi
  · rw [m.registers i hi, List.getElem?_map, List.getElem?_range hi, Option.map_some]
  · rw [Array.getElem?_eq_none (m.size ▸ hi), List.getElem?_eq_none (by simpa using hi)]

end Mirrors

/-- registers of the initial mode may be read and written, and nobody is told -/
theorem allows_initial (value : UInt32) :
    let r : Register := { value := value }
    r.allows RegisterMode.readable = true ∧ r.allows RegisterMode.writable = true ∧
      r.allows RegisterMode.readEvent = false ∧ r.allows RegisterMode.writeEvent = false := by
  simp only [Register.allows]
  decide

theorem agree_read (count : Nat) {offset : UInt32} (ha : offset.toNat % 4 = 0) :
    Action.Agree (Mirrors count) (read offset) (MappedWindow.read offset) := by
  intro f w m
  rcases m.cases ha with ⟨hf, hw⟩ | ⟨hf, hw⟩
  · have hallows := allows_initial (w.file.word offset.toNat)
    simp only [read, hf, MappedWindow.read, hw, hallows.1, hallows.2.2.1, m.start, Nat.zero_add, if_true]
    exact ⟨rfl, ⟨rfl, rfl⟩, m⟩
  · simp only [read, hf, MappedWindow.read, hw]
    exact ⟨rfl, ⟨rfl, rfl⟩, m⟩

theorem agree_write (count : Nat) {offset : UInt32} (value : UInt32) (ha : offset.toNat % 4 = 0) :
    Action.Agree (Mirrors count) (write offset value) (MappedWindow.write offset value) := by
  intro f w m
  rcases m.cases ha with ⟨hf, hw⟩ | ⟨hf, hw⟩
  · have hallows := allows_initial (w.file.word offset.toNat)
    have hplace : w.start + offset.toNat = offset.toNat := by rw [m.start, Nat.zero_add]
    simp only [write, hf, MappedWindow.write, hw, hallows.2.1, hallows.2.2.2, hplace, if_true]
    exact ⟨rfl, ⟨rfl, rfl⟩, m.put value ha⟩
  · simp only [write, hf, MappedWindow.write, hw]
    exact ⟨rfl, ⟨rfl, rfl⟩, m⟩

end RegisterFile

/-! ## Operations of a bank -/

/-- an operation of a bank that changes no mode -/
inductive BankAccess where
  | read (offset : UInt32)
  | write (offset value : UInt32)
  | modify (offset clear set : UInt32)
  | writeSequence (writes : List (UInt32 × UInt32))
  deriving DecidableEq, Repr

namespace BankAccess

variable {β : Type} [RegisterBackend β]

def offsets : BankAccess → List UInt32
  | read offset | write offset _ | modify offset _ _ => [offset]
  | writeSequence writes => writes.map Prod.fst

/-- every register that it names begins at a multiple of 4 -/
def Aligned (a : BankAccess) : Prop := ∀ offset ∈ a.offsets, offset.toNat % 4 = 0

instance (a : BankAccess) : Decidable a.Aligned :=
  List.decidableBAll (fun offset : UInt32 => offset.toNat % 4 = 0) a.offsets

/-- carries it out; the answer is a value if it has one -/
def on : BankAccess → Action (RegisterBank β) (Option UInt32)
  | read offset => Action.bind (RegisterBank.read offset) fun value => Action.pure (some value)
  | write offset value => Action.bind (RegisterBank.write offset value) fun _ => Action.pure none
  | modify offset clear set => Action.bind (RegisterBank.modify offset clear set) fun value => Action.pure (some value)
  | writeSequence writes => Action.bind (RegisterBank.writeSequence writes) fun _ => Action.pure none

end BankAccess

namespace RegisterBank

variable {α β γ : Type}

/-- banks of one BAR and one size, over backends that are related -/
structure Pairs (R : β → γ → Prop) (b : RegisterBank β) (c : RegisterBank γ) : Prop where
  bar : b.bar = c.bar
  size : b.size = c.size
  backends : ∃ s t, b.backend = some s ∧ c.backend = some t ∧ R s t

variable {R : β → γ → Prop}

theorem agree_onBackend {x : Action β α} {y : Action γ α} (h : Action.Agree R x y) :
    Action.Agree (Pairs R) (onBackend x) (onBackend y) := by
  rintro b c ⟨hbar, hsize, s, t, hs, ht, hst⟩
  have agrees := h s t hst
  simp only [onBackend, hs, ht, Action.on]
  exact ⟨agrees.result, agrees.quiet, hbar, hsize, _, _, rfl, rfl, agrees.state⟩

variable [RegisterBackend β] [RegisterBackend γ]

/-- operations one after another, each on what the one before it left, whether that one succeeded or not: the answers
with the events raised, and the bank at the end -/
def trace : List BankAccess → RegisterBank β → List (Except Error (Option UInt32) × List Event) × RegisterBank β
  | [], b => ([], b)
  | a :: rest, b =>
    let o := a.on b
    let (answers, last) := trace rest o.state
    ((o.result, o.events) :: answers, last)

end RegisterBank

/-- no operation tells a bank of simulated registers from a bank over the file that they mirror -/
theorem BankAccess.agree_on (count : Nat) {a : BankAccess} (h : a.Aligned) :
    Action.Agree (RegisterBank.Pairs (RegisterFile.Mirrors count)) a.on a.on := by
  cases a with
  | read offset =>
    have ha := h offset List.mem_cons_self
    apply (RegisterBank.agree_onBackend (RegisterFile.agree_read count ha)).bind
    exact fun value => Action.agree_pure (some value)
  | write offset value =>
    have ha := h offset List.mem_cons_self
    apply (RegisterBank.agree_onBackend (RegisterFile.agree_write count value ha)).bind
    exact fun _ => Action.agree_pure none
  | modify offset clear set =>
    have ha := h offset List.mem_cons_self
    refine (RegisterBank.agree_onBackend ?_).bind fun value => Action.agree_pure (some value)
    apply (RegisterFile.agree_read count ha).bind
    intro old
    apply (RegisterFile.agree_write count _ ha).bind
    exact fun _ => Action.agree_pure _
  | writeSequence writes =>
    have hwrites : ∀ w ∈ writes, Action.Agree (RegisterFile.Mirrors count) (RegisterFile.write w.1 w.2)
        (MappedWindow.write w.1 w.2) := by
      intro w hw
      exact RegisterFile.agree_write count w.2 (h w.1 (List.mem_map_of_mem hw))
    apply (RegisterBank.agree_onBackend (Action.agree_sequence writes hwrites)).bind
    exact fun _ => Action.agree_pure none

namespace RegisterBank

/-- operations one after another: the same answers all along, and one bank mirrors the other at the end -/
theorem Pairs.trace {count : Nat} {accesses : List BankAccess} (h : ∀ a ∈ accesses, a.Aligned)
    {b : RegisterBank RegisterFile} {c : RegisterBank MappedWindow} (p : Pairs (RegisterFile.Mirrors count) b c) :
    (trace accesses b).1 = (trace accesses c).1 ∧
      Pairs (RegisterFile.Mirrors count) (trace accesses b).2 (trace accesses c).2 := by
  induction accesses generalizing b c with
  | nil => exact ⟨rfl, p⟩
  | cons a accesses ih =>
    have first := BankAccess.agree_on count (h a List.mem_cons_self) b c p
    obtain ⟨hrest, hlast⟩ := ih (fun d hd => h d (List.mem_cons_of_mem a hd)) first.state
    refine ⟨?_, hlast⟩
    simp only [RegisterBank.trace, hrest, first.result, first.quiet.1, first.quiet.2]

/-- **Simulated registers and a mapped file of zeros cannot be told apart**: a bank over fresh registers and a bank over
a file with room for as many have one size, answer every sequence of operations alike, inside the bounds and outside,
and hold the same words at the end. -/
theorem trace_fresh_eq_trace_zeros (files : HostFiles) (address : String) (bar : Nat) (count : UInt32)
    (hcount : 1 ≤ count.toNat)
    (hfile : files (BoardBackend.resourcePath address bar) = some (.file (.zeros (count.toNat * registerBytes))))
    (accesses : List BankAccess) (haligned : ∀ a ∈ accesses, a.Aligned) :
    ∃ w, MappedWindow.ofFile files (BoardBackend.resourcePath address bar) 0 none = .ok w ∧
      let b := ofBackend bar (some (RegisterFile.fresh bar count.toNat))
      let c := ofBackend bar (some w)
      b.size = c.size ∧ (trace accesses b).1 = (trace accesses c).1 ∧
      ∃ f v, (trace accesses b).2.backend = some f ∧ (trace accesses c).2.backend = some v ∧
        v.file.length = count.toNat * registerBytes ∧
        f.registers.toList =
          (List.range count.toNat).map fun i => { value := v.file.word (i * registerBytes) } := by
  have hpos : 0 < count.toNat * registerBytes := Nat.mul_pos hcount (by decide)
  have hfit : count.toNat * registerBytes < MappedWindow.addressSpace := by
    have hlt := count.toNat_lt
    simp only [registerBytes, MappedWindow.addressSpace]
    omega
  refine ⟨_, MappedWindow.ofFile_whole hfile hpos hfit, ?_⟩
  intro b c
  have mirrors := RegisterFile.Mirrors.fresh bar count.toNat (BoardBackend.resourcePath address bar)
  have pairs : Pairs (RegisterFile.Mirrors count.toNat) b c := ⟨rfl, mirrors.size_eq, _, _, rfl, rfl, mirrors⟩
  obtain ⟨hanswers, -, -, f, v, hf, hv, last⟩ := pairs.trace haligned
  exact ⟨pairs.size, hanswers, f, v, hf, hv, last.length, last.contents⟩

/-- two registers: a sequence of writes breaks off at the offset behind them, and later accesses see what it has left -/
theorem trace_fresh_eq_trace_zeros_brokenSequence :
    let files : HostFiles := fun path =>
      if path = BoardBackend.resourcePath "0000:01:00.0" 0 then some (.file (.zeros 8)) else none
    let accesses : List BankAccess :=
      [.write 4 9, .modify 4 1 6, .writeSequence [(0, 5), (8, 1), (4, 2)], .read 0, .read 4, .read 0xFFFFFFFC]
    (∀ a ∈ accesses, a.Aligned) ∧
    ∃ w, MappedWindow.ofFile files (BoardBackend.resourcePath "0000:01:00.0" 0) 0 none = .ok w ∧
      (trace accesses (ofBackend 0 (some w))).1 =
        [(.ok none, []), (.ok (some 14), []), (.error (.outOfRange 8 8), []), (.ok (some 5), []), (.ok (some 14), []),
         (.error (.outOfRange 0xFFFFFFFC 8), [])] := by
  intro files accesses
  have haligned : ∀ a ∈ accesses, a.Aligned := by decide
  obtain ⟨w, hw, -, hanswers, -⟩ := trace_fresh_eq_trace_zeros files "0000:01:00.0" 0 2 (by decide)
    (if_pos rfl) accesses haligned
  refine ⟨haligned, w, hw, ?_⟩
  -- the mapped side answers as the simulated side does
  rw [← hanswers]
  rfl

end RegisterBank
end BoardDriver

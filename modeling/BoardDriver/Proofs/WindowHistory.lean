/-
A window onto a file through any history of accesses.

What a window answers can be told from the accesses alone, and from the file as it was when the window was opened: a
word is the one last written at its offset, or else the one that the file held there. Offsets that are served are
multiples of 4, so two words are the same or lie apart.

- `Memory.toNat_word`, `Memory.toNat_byte_setWord`: words are kept with their lowest byte first;
- `Access`, `Serves`, `lastWritten?`, `changed`: what the accesses alone tell;
- `Told.snoc`, `told_after`: what an access, and a history of them, does to the file behind a window;
- `Carries`, `Refuses`: the outcomes of an access; `carries_of_serves`, `refuses_of_error`;
- `window_told`: what is answered and left behind, after any history.
-/
import Mathlib.Algebra.Group.Nat.Defs
import Mathlib.Data.List.Induction
import BoardDriver.Proofs.StartSequence

namespace BoardDriver

/-! ## Words as numbers -/

namespace Memory

/-- a byte is put on top of a shorter word -/
theorem toNat_or_shiftLeft {low : UInt32} {n : Nat} (hlow : low.toNat < 2 ^ n) (hn : n ≤ 24) (b : UInt8) :
    (low ||| b.toUInt32 <<< UInt32.ofNat n).toNat = low.toNat + 2 ^ n * b.toNat := by
  have hb := b.toNat_lt
  have hpow : 2 ^ n ≤ 2 ^ 24 := Nat.pow_le_pow_right (by decide) hn
  have hfits : 2 ^ n * b.toNat < 2 ^ 32 := by
    calc 2 ^ n * b.toNat ≤ 2 ^ 24 * b.toNat := Nat.mul_le_mul_right _ hpow
      _ < 2 ^ 24 * 2 ^ 8 := Nat.mul_lt_mul_of_pos_left hb (by decide)
      _ = 2 ^ 32 := by decide
  have hshift : (b.toUInt32 <<< UInt32.ofNat n).toNat = 2 ^ n * b.toNat := by
    rw [UInt32.toNat_shiftLeft, UInt32.toNat_ofNat_of_lt' (by rw [show UInt32.size = 2 ^ 32 from rfl]; omega),
      Nat.mod_eq_of_lt (by omega : n < 32), UInt8.toNat_toUInt32, Nat.shiftLeft_eq, Nat.mul_comm,
      Nat.mod_eq_of_lt hfits]
  rw [UInt32.toNat_or, hshift, Nat.or_comm, ← Nat.two_pow_add_eq_or_of_lt hlow, Nat.add_comm]

theorem toNat_wordOfBytes (b0 b1 b2 b3 : UInt8) : (wordOfBytes b0 b1 b2 b3).toNat =
    b0.toNat + 256 * b1.toNat + 256 ^ 2 * b2.toNat + 256 ^ 3 * b3.toNat := by
  have hb0 := b0.toNat_lt
  have hb1 := b1.toNat_lt
  have hb2 := b2.toNat_lt
  have h0 : b0.toUInt32.toNat = b0.toNat := UInt8.toNat_toUInt32 b0
  have h1 : (b0.toUInt32 ||| b1.toUInt32 <<< 8).toNat = b0.toNat + 256 * b1.toNat :=
    h0 ▸ toNat_or_shiftLeft (n := 8) (by omega) (by decide) b1
  have h2 : (b0.toUInt32 ||| b1.toUInt32 <<< 8 ||| b2.toUInt32 <<< 16).toNat =
      b0.toNat + 256 * b1.toNat + 256 ^ 2 * b2.toNat :=
    h1 ▸ toNat_or_shiftLeft (n := 16) (by omega) (by decide) b2
  exact h2 ▸ toNat_or_shiftLeft (n := 24) (by omega) (by decide) b3

theorem toNat_word (m : Memory) (i : Nat) : (m.word i).toNat =
    (m.byte i).toNat + 256 * (m.byte (i + 1)).toNat + 256 ^ 2 * (m.byte (i + 2)).toNat +
      256 ^ 3 * (m.byte (i + 3)).toNat :=
  toNat_wordOfBytes _ _ _ _

/-- the bytes of a word are its digits -/
theorem toNat_byte_setWord (m : Memory) (i : Nat) (w : UInt32) {k : Nat} (hk : k < 4) :
    ((m.setWord i w).byte (i + k)).toNat = w.toNat / 256 ^ k % 256 := by
  have hword := toNat_word (m.setWord i w) i
  rw [word_setWord] at hword
  have h0 := ((m.setWord i w).byte i).toNat_lt
  have h1 := ((m.setWord i w).byte (i + 1)).toNat_lt
  have h2 := ((m.setWord i w).byte (i + 2)).toNat_lt
  have h3 := ((m.setWord i w).byte (i + 3)).toNat_lt
  match k, hk with
  | 0, _ => rw [Nat.add_zero]; omega
  | 1, _ => omega
  | 2, _ => omega
  | 3, _ => omega

end Memory

namespace MappedWindow

/-! ## What the accesses alone tell -/

/-- an access to a window, at any offset -/
inductive Access where
  | read (offset : UInt32)
  | write (offset value : UInt32)
  deriving DecidableEq, Repr

/-- the offsets at which a window of some bytes has a word -/
def Serves (extent : Nat) (offset : UInt32) : Prop := offset.toNat % 4 = 0 ∧ offset.toNat + 4 ≤ extent

instance (extent : Nat) (offset : UInt32) : Decidable (Serves extent offset) := inferInstanceAs (Decidable (_ ∧ _))

/-- the value that an access writes at an offset -/
def Access.valueFor? (offset : UInt32) : Access → Option UInt32
  | read _ => none
  | write place value => if place = offset then some value else none

/-- the value that was last written at an offset -/
def lastWritten? (history : List Access) (offset : UInt32) : Option UInt32 :=
  (history.filterMap (Access.valueFor? offset)).getLast?

/-- the offset at which an access changes a window of some bytes -/
def Access.changes? (extent : Nat) : Access → Option UInt32
  | read _ => none
  | write offset _ => if Serves extent offset then some offset else none

/-- the offsets at which a window of some bytes has been changed -/
def changed (extent : Nat) (history : List Access) : List UInt32 := history.filterMap (Access.changes? extent)

theorem lastWritten?_snoc (history : List Access) (a : Access) (offset : UInt32) :
    lastWritten? (history ++ [a]) offset = (a.valueFor? offset).or (lastWritten? history offset) := by
  rw [lastWritten?, List.filterMap_append]
  cases ha : a.valueFor? offset with
  | none =>
    rw [List.filterMap_cons_none ha, List.filterMap_nil, List.append_nil]
    rfl
  | some value =>
    rw [List.filterMap_cons_some ha, List.filterMap_nil, List.getLast?_concat]
    rfl

theorem changed_snoc (extent : Nat) (history : List Access) (a : Access) :
    changed extent (history ++ [a]) = changed extent history ++ (a.changes? extent).toList := by
  rw [changed, List.filterMap_append]
  cases ha : a.changes? extent with
  | none => rw [List.filterMap_cons_none ha]; rfl
  | some offset => rw [List.filterMap_cons_some ha]; rfl

theorem exists_of_mem_changed {extent : Nat} {history : List Access} {offset : UInt32}
    (h : offset ∈ changed extent history) : ∃ value, .write offset value ∈ history ∧ Serves extent offset := by
  obtain ⟨a, ha, hchanges⟩ := List.mem_filterMap.1 h
  cases a with
  | read _ => cases hchanges
  | write place value =>
    obtain ⟨hserves, hplace⟩ := Option.ite_none_right_eq_some.1 hchanges
    cases hplace
    exact ⟨value, ha, hserves⟩

/-- words at two served offsets lie apart -/
theorem Serves.apart {extent : Nat} {offset other : UInt32} (h : Serves extent offset) (h' : Serves extent other)
    (hne : offset ≠ other) : offset.toNat + 4 ≤ other.toNat ∨ other.toNat + 4 ≤ offset.toNat := by
  have hnat : offset.toNat ≠ other.toNat := fun h => hne (UInt32.toNat_inj.1 h)
  have haligned := h.1
  have haligned' := h'.1
  omega

/-! ## Any history -/

def Access.on (w : MappedWindow) : Access → MappedWindow
  | read offset => (MappedWindow.read offset w).state
  | write offset value => (MappedWindow.write offset value w).state

def after (w : MappedWindow) (history : List Access) : MappedWindow := history.foldl Access.on w

theorem after_snoc (w : MappedWindow) (history : List Access) (a : Access) :
    after w (history ++ [a]) = a.on (after w history) :=
  List.foldl_append

/-- `v` is the window `w` after a history, as the accesses alone tell it -/
structure Told (w : MappedWindow) (history : List Access) (v : MappedWindow) : Prop where
  alike : AlikeBut (changed w.extent history) w v
  words : ∀ offset, Serves w.extent offset →
    v.file.word (w.start + offset.toNat) = (lastWritten? history offset).getD (w.file.word (w.start + offset.toNat))

section

variable {w v : MappedWindow} {history : List Access} {offset value : UInt32}

theorem Told.extent (h : Told w history v) : v.extent = w.extent := by rw [h.alike.window]

theorem check_of_serves (h : Serves w.extent offset) : w.check offset = .ok () := (w.check_eq_ok_iff offset).2 h

/-- an access that changes nothing -/
theorem Told.keep (h : Told w history v) {a : Access} (hchanges : a.changes? w.extent = none)
    (hvalue : ∀ offset, Serves w.extent offset → a.valueFor? offset = none) : Told w (history ++ [a]) v where
  alike := by
    rw [changed_snoc, hchanges]
    exact List.append_nil _ ▸ h.alike
  words offset hserves := by
    rw [lastWritten?_snoc, hvalue offset hserves, h.words offset hserves]
    rfl

/-- a write at an offset that is served -/
theorem Told.put (h : Told w history v) (hserves : Serves w.extent offset) (value : UInt32) :
    Told w (history ++ [.write offset value])
      { v with file := v.file.setWord (v.start + offset.toNat) value } where
  alike := by
    have hchanges : (Access.write offset value).changes? w.extent = some offset := if_pos hserves
    rw [changed_snoc, hchanges]
    exact h.alike.trans (.setWord offset value v)
  words other hother := by
    rw [lastWritten?_snoc, h.alike.start]
    by_cases hsame : offset = other
    · subst hsame
      rw [show (Access.write offset value).valueFor? offset = some value from if_pos rfl, Option.some_or,
        Option.getD_some]
      exact v.file.word_setWord _ value
    · have hapart := hserves.apart hother hsame
      rw [show (Access.write offset value).valueFor? other = none from if_neg hsame, Option.none_or,
        ← h.words other hother]
      exact v.file.word_setWord_of_apart value (by omega)

theorem Told.snoc (h : Told w history v) (a : Access) : Told w (history ++ [a]) (a.on v) := by
  cases a with
  | read offset =>
    rw [Access.on, state_read]
    exact h.keep rfl fun _ _ => rfl
  | write offset value =>
    by_cases hserves : Serves w.extent offset
    · have hcheck : v.check offset = .ok () := check_of_serves (h.extent.symm ▸ hserves)
      rw [Access.on, write_of_check value hcheck]
      exact h.put hserves value
    · have hrefused : v.check offset ≠ .ok () := by
        rw [ne_eq, check_eq_ok_iff, h.extent]
        exact hserves
      rw [Access.on]
      rcases v.write_cases offset value with ⟨hok, -⟩ | ⟨e, he⟩
      · exact absurd hok hrefused
      · rw [he]
        refine h.keep (if_neg hserves) fun other hother => if_neg ?_
        rintro rfl
        exact hserves hother

theorem told_after (w : MappedWindow) (history : List Access) : Told w history (after w history) := by
  induction history using List.reverseRecOn with
  | nil => exact ⟨.refl [] w, fun _ _ => rfl⟩
  | append_singleton history a ih =>
    rw [after_snoc]
    exact ih.snoc a

/-! ## One access -/

/-- the accesses at an offset are carried out: a read answers the word that is held there, and a write puts the four
bytes of its value into the file, the lowest first, and leaves all others -/
structure Carries (v : MappedWindow) (offset held : UInt32) : Prop where
  read : MappedWindow.read offset v = { result := .ok held, state := v }
  write : ∀ value, ∃ file, MappedWindow.write offset value v = { result := .ok (), state := { v with file := file } } ∧
    file.length = v.file.length ∧
    (∀ k < 4, (file.byte (v.start + offset.toNat + k)).toNat = value.toNat / 256 ^ k % 256) ∧
    ∀ i, i < v.start + offset.toNat ∨ v.start + offset.toNat + 4 ≤ i → file.byte i = v.file.byte i

/-- the accesses at an offset fail, and nothing is changed -/
structure Refuses (v : MappedWindow) (offset : UInt32) (e : Error) : Prop where
  read : MappedWindow.read offset v = { result := .error e, state := v }
  write : ∀ value, MappedWindow.write offset value v = { result := .error e, state := v }

theorem carries_of_check (h : v.check offset = .ok ()) :
    Carries v offset (v.file.word (v.start + offset.toNat)) where
  read := by simp only [MappedWindow.read, h]
  write value :=
    ⟨_, write_of_check value h, v.file.length_setWord _ value, fun k hk => v.file.toNat_byte_setWord _ value hk,
      fun _ hi => v.file.byte_setWord_of_apart value hi⟩

theorem refuses_of_check {e : Error} (h : v.check offset = .error e) : Refuses v offset e where
  read := by simp only [MappedWindow.read, h]
  write value := by simp only [MappedWindow.write, h]

end

/-- **A window onto a file is that part of the file, in words with their lowest byte first.** After any history of
accesses, at any offsets, to a window that opens inside its file, whatever the number of its bytes is:
- at an offset that is a multiple of 4 and has four bytes up to the end of the window, accesses are carried out: the
word lies inside the file; a read answers the value last written there, or else the word that the file held when it was
opened; a write changes the four bytes of that word to those of the value, and no other byte;
- at an offset that is no multiple of 4, past the end or not, accesses fail as unaligned, and at another one as out of
range; neither changes anything;
- a byte that was not under any of the writes carried out is still the byte that the file held when it was opened. -/
theorem window_told {files : HostFiles} {path : String} {start : Nat} {length : Option Nat} {m : Memory}
    {w : MappedWindow} (hfile : files path = some (.file m)) (hopen : ofFile files path start length = .ok w)
    (hfits : start + w.extent ≤ m.length) (history : List Access) :
    let v := after w history
    w.extent = length.getD m.length ∧ v.start = start ∧ v.file.length = m.length ∧
    (∀ offset : UInt32, offset.toNat % 4 = 0 → offset.toNat + 4 ≤ w.extent →
      start + offset.toNat + 4 ≤ m.length ∧
      Carries v offset ((lastWritten? history offset).getD (m.word (start + offset.toNat)))) ∧
    (∀ i, (m.word i).toNat = (m.byte i).toNat + 256 * (m.byte (i + 1)).toNat + 256 ^ 2 * (m.byte (i + 2)).toNat +
      256 ^ 3 * (m.byte (i + 3)).toNat) ∧
    (∀ offset : UInt32, offset.toNat % 4 ≠ 0 → Refuses v offset (.invalidArgument (.unalignedRegister offset))) ∧
    (∀ offset : UInt32, offset.toNat % 4 = 0 → w.extent < offset.toNat + 4 →
      Refuses v offset (.outOfRange offset.toNat (wordSize w.extent))) ∧
    ∀ i, (∀ offset value : UInt32, .write offset value ∈ history → offset.toNat % 4 = 0 → offset.toNat + 4 ≤ w.extent →
      i < start + offset.toNat ∨ start + offset.toNat + 4 ≤ i) → v.file.byte i = m.byte i := by
  intro v
  obtain ⟨-, -, -, rfl⟩ := (ofFile_eq_ok_iff hfile start length w).1 hopen
  have htold : Told _ history v := told_after _ history
  have hextent := htold.extent
  have hstart := htold.alike.start
  refine ⟨rfl, hstart, htold.alike.length, fun offset haligned hroom => ⟨?_, ?_⟩, m.toNat_word,
    fun offset h => refuses_of_check (v.check_of_unaligned h), fun offset haligned hpast => ?_, fun i hi => ?_⟩
  · dsimp only at hfits hroom
    omega
  · have hserves : Serves v.extent offset := ⟨haligned, hextent.symm ▸ hroom⟩
    have hcarries := carries_of_check (check_of_serves hserves)
    rw [hstart, htold.words offset ⟨haligned, hroom⟩] at hcarries
    exact hcarries
  · have hrefuses := refuses_of_check (v.check_of_past haligned (hextent.symm ▸ hpast))
    rw [size, hextent] at hrefuses
    exact hrefuses
  · refine htold.alike.elsewhere i fun offset hoffset => ?_
    obtain ⟨value, hmem, hserves⟩ := exists_of_mem_changed hoffset
    exact hi offset value hmem hserves.1 hserves.2

/-- a file with three words in it, and two bytes more than words -/
def unevenFiles : HostFiles := fun _ =>
  some (.file (.ofWords 12290 [(4096, 0x04030201), (4100, 0x08070605), (12284, 0x0c0b0a09)]))

def mixedAccesses : List Access :=
  [.write 4 0x11223344, .write 6 1, .write 8192 2, .read 4, .write 8188 3, .write 4 0x55667788, .write 0xfffffffc 4]

/-- the window onto their last 8194 bytes -/
def unevenWindow : MappedWindow where
  path := "device"
  start := 4096
  extent := 8194
  file := .ofWords 12290 [(4096, 0x04030201), (4100, 0x08070605), (12284, 0x0c0b0a09)]

/-- the second of two writes is read back, a word that was not written is as in the file, and the last two bytes of the
window are no word -/
theorem window_told_uneven :
    ofFile unevenFiles "device" 4096 (some 8194) = .ok unevenWindow ∧ 4096 + unevenWindow.extent ≤ 12290 ∧
    (read 4 (after unevenWindow mixedAccesses)).result = .ok 0x55667788 ∧
    (read 0 (after unevenWindow mixedAccesses)).result = .ok 0x04030201 ∧
    (read 8192 (after unevenWindow mixedAccesses)).result = .error (.outOfRange 8192 8194) ∧
    (read 0xffffffff (after unevenWindow mixedAccesses)).result =
      .error (.invalidArgument (.unalignedRegister 0xffffffff)) ∧
    (after unevenWindow mixedAccesses).file.byte 12289 = 0 := by
  have hopen : ofFile unevenFiles "device" 4096 (some 8194) = .ok unevenWindow := rfl
  have hfits : 4096 + unevenWindow.extent ≤ 12290 := by decide
  obtain ⟨-, -, -, hcarries, -, hunaligned, hpast, helse⟩ := window_told rfl hopen hfits mixedAccesses
  refine ⟨hopen, hfits, ?_, ?_, ?_, ?_, ?_⟩
  · rw [(hcarries 4 (by decide) (by decide)).2.read]
    rfl
  · rw [(hcarries 0 (by decide) (by decide)).2.read]
    rfl
  · rw [(hpast 8192 (by decide) (by decide)).read]
    rfl
  · rw [(hunaligned 0xffffffff (by decide)).read]
  · refine (helse 12289 ?_).trans (by decide)
    intro offset value hmem haligned hroom
    have hwhole : offset.toNat + 4 ≤ 8194 := hroom
    omega

end MappedWindow
end BoardDriver

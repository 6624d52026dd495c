/-
How far a window that was opened without a length reaches.

Such a window has as many bytes as its file, wherever in the file it begins. So one that begins at the beginning covers
the file, and one that begins later reaches past the end by as much: its accesses leave the file, and come to pages that
the file does not have, unless the 32 bits of an offset end first.

- `exists_last_served`, `forall_check_iff`: the last word that a window serves, and how far its accesses reach for it;
- `wholeLength_reach`: just when they stay inside the file, and inside its pages;
- `check_past_secondPage`: a window onto the second page of a file of little more than one.
-/
import Mathlib.Algebra.Group.Nat.Defs
import BoardDriver.Proofs.MappedMemory

namespace BoardDriver
namespace MappedWindow

/-- the end of the last page of a file of some bytes -/
def pagesEnd (length : Nat) : Nat := (length + (pageBytes - 1)) / pageBytes * pageBytes

/-- the last word that a window serves: the last whole one, or the last one that an offset of 32 bits can name -/
theorem exists_last_served {w : MappedWindow} (h : 4 ≤ w.extent) :
    ∃ offset, w.check offset = .ok () ∧ offset.toNat + 4 = min (w.extent / 4 * 4) (2 ^ 32) := by
  have hlast : min (w.extent / 4 * 4) (2 ^ 32) - 4 < UInt32.size := by
    rw [show UInt32.size = 2 ^ 32 from rfl]
    omega
  refine ⟨UInt32.ofNat (min (w.extent / 4 * 4) (2 ^ 32) - 4), (w.check_eq_ok_iff _).2 ?_, ?_⟩ <;>
    rw [UInt32.toNat_ofNat_of_lt' hlast] <;> omega

/-- the accesses of a window stay below a bound just when the last one does, if there is one -/
theorem forall_check_iff (w : MappedWindow) (bound : Nat) :
    (∀ offset, w.check offset = .ok () → w.start + offset.toNat + 4 ≤ bound) ↔
      w.extent < 4 ∨ w.start + min (w.extent / 4 * 4) (2 ^ 32) ≤ bound := by
  constructor
  · intro hall
    rcases Nat.lt_or_ge w.extent 4 with hsmall | hsome
    · exact .inl hsmall
    · obtain ⟨offset, hcheck, hlast⟩ := exists_last_served hsome
      have hbound := hall offset hcheck
      right
      omega
  · intro hlast offset hcheck
    obtain ⟨haligned, hroom⟩ := (w.check_eq_ok_iff offset).1 hcheck
    have hword := offset.toNat_lt
    omega

/-- **A window opened without a length stays inside its file just when it begins at the beginning, or ends for the 32
bits of an offset.** For every file, and every place in it at which a window opens without a length:
- all accesses that the check accepts lie inside the file just when the window begins at the beginning of the file, or
the file has less than one word, or 2 ^ 32 bytes follow in it;
- the window covers no more than the bytes from its beginning to the end of the file just when it begins at the
beginning of the file;
- all accesses that the check accepts lie inside the pages of the file just when the last one does, or there is none. -/
theorem wholeLength_reach {files : HostFiles} {path : String} {start : Nat} {m : Memory} {w : MappedWindow}
    (hfile : files path = some (.file m)) (hopen : ofFile files path start none = .ok w) :
    ((∀ offset, w.check offset = .ok () → start + offset.toNat + 4 ≤ m.length) ↔
      start = 0 ∨ m.length < 4 ∨ start + 2 ^ 32 ≤ m.length) ∧
    (w.start + w.extent ≤ m.length ↔ start = 0) ∧
    ((∀ offset, w.check offset = .ok () → start + offset.toNat + 4 ≤ pagesEnd m.length) ↔
      m.length < 4 ∨ start + min (m.length / 4 * 4) (2 ^ 32) ≤ pagesEnd m.length) := by
  obtain ⟨hpage, hpos, -, rfl⟩ := (ofFile_eq_ok_iff hfile start none w).1 hopen
  rw [Option.getD_none] at hpos
  have haligned : start = 0 ∨ 4096 ≤ start := by
    rw [pageBytes] at hpage
    omega
  refine ⟨(forall_check_iff _ m.length).trans ?_, ?_, forall_check_iff _ (pagesEnd m.length)⟩
  · dsimp only [Option.getD_none]
    omega
  · dsimp only [Option.getD_none]
    omega

/-- files of a page and a word -/
def pageAndWordFiles : HostFiles := fun _ => some (.file (.zeros 4100))

/-- the window that begins with their second page -/
def secondPage : MappedWindow where
  path := "device"
  start := 4096
  extent := 4100
  file := .zeros 4100

theorem ofFile_firstPage : ofFile pageAndWordFiles "device" 0 none =
    .ok { path := "device", start := 0, extent := 4100, file := .zeros 4100 } := rfl

theorem ofFile_secondPage : ofFile pageAndWordFiles "device" 4096 none = .ok secondPage := rfl

/-- some access of that window leaves the file, and the two pages of it, and none of the window that begins with the
first page does -/
theorem wholeLength_reach_pageAndWord :
    (∃ w, ofFile pageAndWordFiles "device" 0 none = .ok w ∧
      ∀ offset, w.check offset = .ok () → 0 + offset.toNat + 4 ≤ 4100) ∧
    ofFile pageAndWordFiles "device" 4096 none = .ok secondPage ∧
      (¬ ∀ offset, secondPage.check offset = .ok () → 4096 + offset.toNat + 4 ≤ 4100) ∧
      ¬ ∀ offset, secondPage.check offset = .ok () → 4096 + offset.toNat + 4 ≤ pagesEnd 4100 := by
  obtain ⟨hfirst, -⟩ := wholeLength_reach rfl ofFile_firstPage
  obtain ⟨hfile, -, hpages⟩ := wholeLength_reach rfl ofFile_secondPage
  refine ⟨⟨_, ofFile_firstPage, hfirst.2 (.inl rfl)⟩, ofFile_secondPage, fun hall => ?_, fun hall => ?_⟩
  · exact absurd (hfile.1 hall) (by decide)
  · exact absurd (hpages.1 hall) (by decide)

/-- the check accepts the word after the last of the file, and one on a page that the file does not have -/
theorem check_past_secondPage :
    pageAndWordFiles "device" = some (.file (.zeros 4100)) ∧
    ofFile pageAndWordFiles "device" 4096 none = .ok secondPage ∧
    secondPage.check 4 = .ok () ∧ (read 4 secondPage).result = .ok 0 ∧ 4100 < 4096 + (4 : UInt32).toNat + 4 ∧
    secondPage.check 4096 = .ok () ∧ pagesEnd 4100 < 4096 + (4096 : UInt32).toNat + 4 :=
  ⟨rfl, ofFile_secondPage, rfl, rfl, by decide, rfl, by decide⟩

end MappedWindow
end BoardDriver

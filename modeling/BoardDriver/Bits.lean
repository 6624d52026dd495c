/-
Bit maps of 32 positions: one bit per DMA channel, per interrupt source, per event type.

- `lowest?`: the lowest position that is set.
- `mask n`: the lowest `n` positions set, all of them from 32 on.
-/
namespace BoardDriver.Bits

/-- the lowest set position of a map, if it has any -/
def lowest? (m : BitVec 32) : Option Nat :=
  (List.range 32).find? fun i => m.getLsbD i

/-- the map with exactly the positions below `n` set -/
def mask (n : Nat) : BitVec 32 :=
  BitVec.ofNat 32 ((1 <<< min n 32) - 1)

def insert (m : BitVec 32) (i : Nat) : BitVec 32 :=
  m ||| BitVec.twoPow 32 i

def erase (m : BitVec 32) (i : Nat) : BitVec 32 :=
  m &&& ~~~ BitVec.twoPow 32 i

theorem getLsbD_mask (n i : Nat) : (mask n).getLsbD i = decide (i < n ∧ i < 32) := by
  simp only [mask, Nat.one_shiftLeft, BitVec.getLsbD_ofNat, Nat.testBit_two_pow_sub_one, ← Bool.decide_and,
    decide_eq_decide]
  omega

theorem getLsbD_insert (m : BitVec 32) (i j : Nat) :
    (insert m i).getLsbD j = (m.getLsbD j || decide (j = i ∧ j < 32)) := by
  simp only [insert, BitVec.getLsbD_or, BitVec.getLsbD_twoPow, ← Bool.decide_and]
  congr 1
  rw [decide_eq_decide]
  omega

theorem getLsbD_erase (m : BitVec 32) (i j : Nat) :
    (erase m i).getLsbD j = (m.getLsbD j && decide (j ≠ i)) := by
  rcases Nat.lt_or_ge j 32 with hj | hj
  · simp only [erase, BitVec.getLsbD_and, BitVec.getLsbD_not, BitVec.getLsbD_twoPow, hj, decide_true, Bool.true_and,
      ← decide_not, ← Bool.decide_and]
    congr 1
    rw [decide_eq_decide]
    omega
  · simp only [BitVec.getLsbD_of_ge _ j hj, Bool.false_and]

theorem lowest?_eq_some_iff (m : BitVec 32) (i : Nat) :
    lowest? m = some i ↔ m.getLsbD i = true ∧ ∀ j < i, m.getLsbD j = false := by
  have hlt : m.getLsbD i = true → i < 32 := BitVec.lt_of_getLsbD
  simp only [lowest?, List.find?_range_eq_some, List.mem_range, Bool.not_eq_true']
  exact ⟨fun ⟨h, _, hj⟩ => ⟨h, hj⟩, fun ⟨h, hj⟩ => ⟨h, hlt h, hj⟩⟩

theorem lowest?_eq_none_iff (m : BitVec 32) : lowest? m = none ↔ m = 0#32 := by
  simp only [lowest?, List.find?_eq_none, List.mem_range, Bool.not_eq_true]
  constructor
  · intro h
    exact BitVec.eq_of_getLsbD_eq fun i hi => by rw [h i hi, BitVec.getLsbD_zero]
  · rintro rfl i _
    exact BitVec.getLsbD_zero

end BoardDriver.Bits

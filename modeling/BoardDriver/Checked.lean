/-
Arithmetic on 32-bit words that gives no answer where the result is not a word, in place of wrapping around.
-/
namespace BoardDriver.Checked

/-- the word of a number, if it has one -/
def word? (n : Nat) : Option UInt32 :=
  if n < UInt32.size then some (UInt32.ofNat n) else none

def mul? (a b : UInt32) : Option UInt32 := word? (a.toNat * b.toNat)

def add? (a b : UInt32) : Option UInt32 := word? (a.toNat + b.toNat)

theorem word?_eq_some_iff (n : Nat) (w : UInt32) : word? n = some w ↔ w.toNat = n := by
  unfold word?
  split
  · rename_i h
    rw [Option.some.injEq, ← UInt32.toNat_inj, UInt32.toNat_ofNat_of_lt' h, eq_comm]
  · rename_i h
    have hw := w.toNat_lt_size
    refine ⟨nofun, fun heq => ?_⟩
    omega

end BoardDriver.Checked

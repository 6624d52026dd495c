/-
A floating-point number as text, to the nearest tenth.

A finite number is a whole multiple of a power of two, so its tenths are a quotient of natural numbers. That quotient is
rounded to the nearest whole number, and in the middle to the even one. What is rounded is the number that is held, and
not the decimal that it was made from: 0.15 are held as a little less, and are written as 0.1.
-/
namespace BoardDriver.Text

/-- the whole number nearest to a quotient; in the middle, the even one -/
def nearest (n d : Nat) : Nat :=
  let q := n / d
  if 2 * (n % d) < d then q
  else if d < 2 * (n % d) then q + 1
  else q + q % 2

/-- it is half away at most, and even if it is half away -/
theorem nearest_within (n : Nat) {d : Nat} (hd : 0 < d) :
    let low := 2 * (nearest n d * d)
    low ≤ 2 * n + d ∧ 2 * n ≤ low + d ∧ (low = 2 * n + d ∨ 2 * n = low + d → nearest n d % 2 = 0) := by
  have hsplit : n / d * d + n % d = n := Nat.div_add_mod' n d
  have hrest : n % d < d := Nat.mod_lt n hd
  have hnext : (n / d + 1) * d = n / d * d + d := Nat.succ_mul ..
  unfold nearest
  by_cases hbelow : 2 * (n % d) < d
  · simp only [if_pos hbelow]
    omega
  · by_cases habove : d < 2 * (n % d)
    · simp only [if_neg hbelow, if_pos habove, hnext]
      omega
    · -- in the middle, the even one of the two neighbours is taken
      simp only [if_neg hbelow, if_neg habove]
      rcases Nat.mod_two_eq_zero_or_one (n / d) with heven | hodd
      · rw [heven, Nat.add_zero]
        omega
      · rw [hodd, hnext]
        omega

/-- tenths of a finite number, its sign left out -/
def tenths (x : Float) : Nat :=
  let bits := x.toBits.toNat
  let exponent := (bits >>> 52) % (1 <<< 11)
  let fraction := bits % (1 <<< 52)
  -- the smallest numbers have no leading digit, and the same unit as those above them
  let significand := if exponent = 0 then fraction else (1 <<< 52) + fraction
  nearest ((10 * significand) <<< (exponent - 1)) (1 <<< 1074)

/-- a finite number that is not negative, with one digit after the point -/
def toOneDigit (x : Float) : String := toString (tenths x / 10) ++ "." ++ toString (tenths x % 10)

-- up to whole numbers, a quarter and three quarters are all that a float can hold in the middle of two tenths
example : toOneDigit 0.25 = "0.2" ∧ toOneDigit 0.75 = "0.8" ∧ toOneDigit 2.5 = "2.5" := by decide +kernel

end BoardDriver.Text

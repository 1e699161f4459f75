/-!
Rounding a quotient to a whole number. Main statements: a whole number stays as it is, and the
result is never further than a half from the quotient.
-/

namespace PageLoad.Number

/-- The whole number nearest to a quotient, of two equally near the even one. -/
def nearest (numerator denominator : Nat) : Nat :=
  let quotient := numerator / denominator
  let rest := numerator % denominator
  if 2 * rest < denominator then quotient
  else if denominator < 2 * rest then quotient + 1
  else quotient + quotient % 2

theorem nearest_mul_self (n : Nat) {d : Nat} (positive : 0 < d) : nearest (n * d) d = n := by
  simp [nearest, Nat.mul_div_cancel n positive, positive]

theorem nearest_within_half (n : Nat) {d : Nat} (positive : 0 < d) :
    2 * n ≤ (2 * nearest n d + 1) * d ∧ 2 * nearest n d * d ≤ 2 * n + d := by
  have split := Nat.div_add_mod n d
  have small := Nat.mod_lt n positive
  have expand : d * (n / d) = n / d * d := Nat.mul_comm _ _
  unfold nearest
  simp only
  split
  · constructor
    · rw [Nat.add_mul, Nat.mul_assoc]; omega
    · rw [Nat.mul_assoc]; omega
  · split
    · constructor
      · rw [Nat.add_mul, Nat.mul_assoc, Nat.add_mul]; omega
      · rw [Nat.mul_assoc, Nat.add_mul]; omega
    · have halves : n / d % 2 = 0 ∨ n / d % 2 = 1 := by omega
      rcases halves with even | odd
      · rw [even]
        constructor
        · rw [Nat.add_mul, Nat.mul_assoc, Nat.add_zero]; omega
        · rw [Nat.mul_assoc, Nat.add_zero]; omega
      · rw [odd]
        constructor
        · rw [Nat.add_mul, Nat.mul_assoc, Nat.add_mul]; omega
        · rw [Nat.mul_assoc, Nat.add_mul]; omega

end PageLoad.Number

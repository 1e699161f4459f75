import PageLoad.Number.Shortest
import PageLoad.Proofs.Number.Digits
import PageLoad.Proofs.Number.Nearest

/-!
The shortest decimal of a positive number is not zero, and a positive number is written without zeros in
front.
-/

namespace PageLoad.Number

theorem head_toString {n : Nat} (positive : 0 < n) : (toString n).toList.head? ≠ some '0' := by
  rw [toList_toString]
  induction n using Nat.strongRecOn with
  | ind n ih =>
    rw [Nat.toDigits_eq_if (by decide)]
    split
    next small =>
      rw [List.head?_cons, ne_eq, Option.some.injEq, Nat.digitChar_eq_zero]
      exact positive.ne'
    next large =>
      have shorter : n / 10 < n := Nat.div_lt_self positive (by decide)
      have left : 0 < n / 10 := Nat.div_pos (Nat.le_of_not_lt large) (by decide)
      rw [List.head?_append, List.head?_eq_some_head Nat.toDigits_ne_nil, Option.some_or,
        ← List.head?_eq_some_head]
      exact ih (n / 10) shorter left

namespace Decimal

/-- A decimal that is zero is too far from a positive number to be read back as it. -/
theorem digits_pos_of_readsBack {decimal : Decimal} {units : Nat} (positive : 0 < units)
    (back : decimal.readsBack units = true) : 0 < decimal.digits := by
  refine Nat.pos_of_ne_zero fun zero => ?_
  have step : Double.spacing units ≤ units := by
    rw [Double.spacing_eq]
    exact (Nat.pow_le_pow_right (by decide) (Nat.sub_le _ _)).trans (Nat.log2_self_le positive.ne')
  have apart : 0 < 4 * units - (if units = 1 <<< units.log2 && Double.spacing units ≠ 1 then Double.spacing units
      else 2 * Double.spacing units) := by
    split <;> omega
  have most (numerator denominator : Nat) : decimal.atMost numerator denominator = true := by
    rw [atMost, zero, Nat.zero_mul, Nat.zero_mul]
    exact decide_eq_true (Nat.zero_le _)
  have least {numerator : Nat} (denominator : Nat) (given : 0 < numerator) :
      decimal.atLeast numerator denominator = false := by
    rw [atLeast, zero, Nat.zero_mul, Nat.zero_mul]
    exact decide_eq_false (Nat.not_le.mpr (Nat.mul_pos given (Nat.pow_pos (by decide))))
  unfold readsBack at back
  dsimp only at back
  split at back
  · rw [least _ apart, Bool.false_and] at back
    cases back
  · rw [most, Bool.not_true, Bool.false_and] at back
    cases back

theorem nearer_cases (tie : Tie) (units : Nat) (below : Decimal) :
    below.nearer tie units = below ∨ below.nearer tie units = below.next := by
  unfold nearer
  dsimp only
  split
  · split
    · exact .inl rfl
    · exact .inr rfl
  · split
    · exact .inr rfl
    · exact .inl rfl

theorem digits_pos_of_withDigits? {tie : Tie} {units count : Nat} (positive : 0 < units) {decimal : Decimal}
    (found : withDigits? tie units count = some decimal) : 0 < decimal.digits := by
  unfold withDigits? at found
  dsimp only at found
  split at found
  next back _ =>
    obtain rfl := Option.some.inj found
    rcases nearer_cases tie units (floor units (scale units - count)) with same | same
    · rw [same]
      exact digits_pos_of_readsBack positive back
    · rw [same]
      exact Nat.succ_pos _
  next back _ =>
    obtain rfl := Option.some.inj found
    exact digits_pos_of_readsBack positive back
  next =>
    obtain rfl := Option.some.inj found
    exact Nat.succ_pos _
  next => cases found

theorem strip_digits_pos (fuel : Nat) {decimal : Decimal} (positive : 0 < decimal.digits) :
    0 < (decimal.strip fuel).digits := by
  induction fuel generalizing decimal with
  | zero => exact positive
  | succ fuel ih =>
    unfold strip
    split
    next trailing =>
      simp only [ne_eq, decide_not, Bool.and_eq_true, decide_eq_true_eq] at trailing
      exact ih (show 0 < decimal.digits / 10 by omega)
    next => exact positive

theorem shortest_digits_pos (tie : Tie) {units : Nat} (positive : 0 < units) :
    0 < (shortest tie units).digits := by
  have allDigits (exponent : Nat) : 0 < units * Nat.pow 5 exponent :=
    Nat.mul_pos positive (Nat.pow_pos (by decide))
  unfold shortest
  refine strip_digits_pos _ ?_
  cases found : (List.range 17).findSome? fun count => withDigits? tie units (count + 1) with
  | none =>
    rw [Option.getD_none]
    apply allDigits
  | some decimal =>
    obtain ⟨count, -, isFound⟩ := List.exists_of_findSome?_eq_some found
    exact digits_pos_of_withDigits? positive isFound

end Decimal

end PageLoad.Number

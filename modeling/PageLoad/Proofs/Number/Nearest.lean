import PageLoad.Number.Double
import Mathlib.Data.Nat.Dist

/-!
The number that stands for a quotient is as near to it as any.
-/

namespace PageLoad.Number.Double

def IsMagnitude (units : Nat) : Prop := spacing units ∣ units ∧ units < overflow

/-- No magnitude is nearer to a quotient of units. Distances are compared as multiples of the
denominator. -/
structure IsNearest (numerator denominator units : Nat) : Prop where
  magnitude : IsMagnitude units
  least : ∀ other, IsMagnitude other →
    Nat.dist (units * denominator) numerator ≤ Nat.dist (other * denominator) numerator

theorem spacing_eq (units : Nat) : spacing units = 2 ^ (units.log2 - 52) := Nat.one_shiftLeft _

theorem spacing_pos (units : Nat) : 0 < spacing units := by
  rw [spacing_eq]
  exact Nat.two_pow_pos _

theorem nearest_least (numerator : Nat) {denominator : Nat} (positive : 0 < denominator) (other : Nat) :
    Nat.dist (nearest numerator denominator * denominator) numerator ≤
      Nat.dist (other * denominator) numerator := by
  have ⟨above, below⟩ := nearest_within_half numerator positive
  rw [Nat.add_mul, Nat.one_mul, Nat.mul_assoc] at above
  rw [Nat.mul_assoc] at below
  unfold Nat.dist
  rcases Nat.lt_trichotomy other (nearest numerator denominator) with less | rfl | more
  · have apart := Nat.mul_le_mul_right denominator less
    rw [Nat.succ_mul] at apart
    omega
  · exact Nat.le_refl _
  · have apart := Nat.mul_le_mul_right denominator more
    rw [Nat.succ_mul] at apart
    omega

theorem nearest_le {numerator denominator bound : Nat} (positive : 0 < denominator)
    (small : numerator ≤ bound * denominator) : nearest numerator denominator ≤ bound := by
  have below := (nearest_within_half numerator positive).2
  have doubled : 2 * nearest numerator denominator * denominator ≤ (2 * bound + 1) * denominator := by
    rw [Nat.add_mul, Nat.one_mul, Nat.mul_assoc 2 bound]
    omega
  have halved := Nat.le_of_mul_le_mul_right doubled positive
  omega

theorem le_nearest {numerator denominator bound : Nat} (positive : 0 < denominator)
    (large : bound * denominator ≤ numerator) : bound ≤ nearest numerator denominator := by
  have above := (nearest_within_half numerator positive).1
  have doubled : 2 * bound * denominator ≤ (2 * nearest numerator denominator + 1) * denominator := by
    rw [Nat.mul_assoc 2 bound]
    omega
  have halved := Nat.le_of_mul_le_mul_right doubled positive
  omega

/-- Only the nearest whole number is less than a half away. -/
theorem nearest_eq {numerator denominator n : Nat} (close : 2 * Nat.dist (n * denominator) numerator < denominator) :
    nearest numerator denominator = n := by
  have positive : 0 < denominator := Nat.zero_lt_of_lt close
  have ⟨above, below⟩ := nearest_within_half numerator positive
  have twice : 2 * n * denominator = 2 * (n * denominator) := Nat.mul_assoc ..
  unfold Nat.dist at close
  have most : 2 * nearest numerator denominator * denominator < (2 * n + 2) * denominator := by
    rw [Nat.add_mul, twice]
    omega
  have least : 2 * n * denominator < (2 * nearest numerator denominator + 2) * denominator := by
    rw [Nat.add_mul] at above ⊢
    omega
  have := Nat.lt_of_mul_lt_mul_right most
  have := Nat.lt_of_mul_lt_mul_right least
  omega

theorem spacing_dvd_two_pow {units bits : Nat} (enough : units.log2 ≤ bits) : spacing units ∣ 2 ^ bits := by
  rw [spacing_eq]
  exact Nat.pow_dvd_pow 2 (by omega)

theorem spacing_dvd_spacing {units other : Nat} (bits : units.log2 ≤ other.log2 ∨ units.log2 ≤ 52) :
    spacing units ∣ spacing other := by
  rw [spacing_eq, spacing_eq]
  exact Nat.pow_dvd_pow 2 (by omega)

def rounded (scaled denominator : Nat) : Nat :=
  nearest scaled (denominator * spacing (scaled / denominator)) * spacing (scaled / denominator)

theorem ofQuotient_eq (negative : Bool) (numerator denominator : Nat) :
    ofQuotient negative numerator denominator =
      if overflow ≤ rounded (numerator * unitsPerOne) denominator then .infinite negative
      else .finite negative (rounded (numerator * unitsPerOne) denominator) := rfl

/-- Rounding gives a number of 53 bits, or the power of two that follows them. -/
theorem spacing_dvd_rounded (scaled : Nat) {denominator : Nat} (positive : 0 < denominator) :
    spacing (rounded scaled denominator) ∣ rounded scaled denominator := by
  let step := spacing (scaled / denominator)
  let bits := (scaled / denominator).log2
  obtain ⟨count, power⟩ : step ∣ 2 ^ (bits + 1) := spacing_dvd_two_pow (Nat.le_succ bits)
  have quotient : scaled ≤ count * (denominator * step) := calc
    scaled ≤ 2 ^ (bits + 1) * denominator :=
      Nat.le_of_lt ((Nat.div_lt_iff_lt_mul positive).mp Nat.lt_log2_self)
    _ = count * (denominator * step) := by
      rw [power]
      ac_rfl
  have multiple : step ∣ rounded scaled denominator := Nat.dvd_mul_left _ _
  have most : rounded scaled denominator ≤ 2 ^ (bits + 1) := by
    rw [power, Nat.mul_comm step]
    exact Nat.mul_le_mul_right step (nearest_le (Nat.mul_pos positive (spacing_pos _)) quotient)
  generalize rounded scaled denominator = units at most multiple
  rcases Nat.eq_or_lt_of_le most with full | less
  · rw [full]
    exact spacing_dvd_two_pow (Nat.le_of_eq Nat.log2_two_pow)
  · refine Nat.dvd_trans ?_ multiple
    by_cases zero : units = 0
    · rw [zero]
      exact Nat.one_dvd _
    · exact spacing_dvd_spacing (.inl (Nat.le_of_lt_succ ((Nat.log2_lt zero).mpr less)))

theorem rounded_least (scaled : Nat) {denominator : Nat} (positive : 0 < denominator) {other : Nat}
    (magnitude : IsMagnitude other) :
    Nat.dist (rounded scaled denominator * denominator) scaled ≤
      Nat.dist (other * denominator) scaled := by
  let quotient := scaled / denominator
  have multiple (count : Nat) : Nat.dist (rounded scaled denominator * denominator) scaled ≤
      Nat.dist (count * spacing quotient * denominator) scaled := by
    have apart : 0 < denominator * spacing quotient := Nat.mul_pos positive (spacing_pos _)
    rw [rounded, Nat.mul_assoc, Nat.mul_comm (spacing _), Nat.mul_assoc, Nat.mul_comm (spacing _)]
    exact nearest_least scaled apart count
  by_cases bits : quotient.log2 ≤ other.log2 ∨ quotient.log2 ≤ 52
  · obtain ⟨count, same⟩ := Nat.dvd_trans (spacing_dvd_spacing bits) magnitude.1
    rw [same, Nat.mul_comm _ count]
    exact multiple count
  · have wide : 52 < quotient.log2 := by omega
    have some : quotient ≠ 0 := by
      intro zero
      rw [zero, Nat.log2_zero] at wide
      cases wide
    have below : other < 2 ^ quotient.log2 := by
      by_cases zero : other = 0
      · rw [zero]
        exact Nat.two_pow_pos _
      · exact (Nat.log2_lt zero).mp (by omega)
    -- the power of two below the quotient is a multiple of the spacing, and lies between
    have between : 2 ^ quotient.log2 * denominator ≤ scaled :=
      (Nat.mul_le_mul_right denominator (Nat.log2_self_le some)).trans (Nat.div_mul_le_self _ _)
    obtain ⟨count, power⟩ := spacing_dvd_two_pow (Nat.le_refl quotient.log2)
    have least := multiple count
    rw [Nat.mul_comm count, ← power] at least
    have farther := Nat.mul_le_mul_right denominator (Nat.le_of_lt below)
    rw [Nat.dist_eq_sub_of_le between] at least
    rw [Nat.dist_eq_sub_of_le (farther.trans between)]
    exact least.trans (Nat.sub_le_sub_left farther _)

theorem isMagnitude_of_ofQuotient {negative sign : Bool} {numerator denominator units : Nat}
    (positive : 0 < denominator) (finite : ofQuotient negative numerator denominator = .finite sign units) :
    IsMagnitude units := by
  rw [ofQuotient_eq] at finite
  split at finite
  · cases finite
  · rename_i room
    cases finite
    exact ⟨spacing_dvd_rounded _ positive, Nat.not_le.mp room⟩

/-- The number that stands for a quotient is one of the nearest. -/
theorem ofQuotient_nearest {negative : Bool} {numerator denominator units : Nat}
    (positive : 0 < denominator)
    (finite : ofQuotient negative numerator denominator = .finite negative units) :
    IsNearest (numerator * unitsPerOne) denominator units := by
  refine ⟨isMagnitude_of_ofQuotient positive finite, fun _ magnitude => ?_⟩
  rw [ofQuotient_eq] at finite
  split at finite
  · cases finite
  · cases finite
    exact rounded_least _ positive magnitude

theorem rounded_le {scaled denominator bound : Nat} (positive : 0 < denominator)
    (magnitude : IsMagnitude bound) (small : scaled ≤ bound * denominator) :
    rounded scaled denominator ≤ bound := by
  by_contra above
  have farther := Nat.mul_lt_mul_of_pos_right (Nat.not_le.mp above) positive
  have least := rounded_least scaled positive magnitude
  rw [Nat.dist_eq_sub_of_le_right small, Nat.dist_eq_sub_of_le_right (small.trans farther.le)] at least
  omega

theorem le_rounded {scaled denominator bound : Nat} (positive : 0 < denominator)
    (magnitude : IsMagnitude bound) (large : bound * denominator ≤ scaled) :
    bound ≤ rounded scaled denominator := by
  by_contra below
  have farther := Nat.mul_lt_mul_of_pos_right (Nat.not_le.mp below) positive
  have least := rounded_least scaled positive magnitude
  rw [Nat.dist_eq_sub_of_le large, Nat.dist_eq_sub_of_le (farther.le.trans large)] at least
  omega

theorem rounded_exact {denominator units : Nat} (positive : 0 < denominator) (magnitude : IsMagnitude units) :
    rounded (units * denominator) denominator = units :=
  Nat.le_antisymm (rounded_le positive magnitude le_rfl) (le_rounded positive magnitude le_rfl)

theorem rounded_within (scaled : Nat) {denominator : Nat} (positive : 0 < denominator) :
    2 * Nat.dist (rounded scaled denominator * denominator) scaled ≤
      denominator * spacing (scaled / denominator) := by
  have apart : 0 < denominator * spacing (scaled / denominator) := Nat.mul_pos positive (spacing_pos _)
  have ⟨above, below⟩ := nearest_within_half scaled apart
  have steps : rounded scaled denominator * denominator =
      nearest scaled (denominator * spacing (scaled / denominator)) *
        (denominator * spacing (scaled / denominator)) := by
    rw [rounded]
    ac_rfl
  rw [Nat.add_mul, Nat.one_mul, Nat.mul_assoc, ← steps] at above
  rw [Nat.mul_assoc, ← steps] at below
  unfold Nat.dist
  omega

theorem ofQuotient_le (negative : Bool) {numerator denominator bound : Nat} (positive : 0 < denominator)
    (magnitude : IsMagnitude bound) (small : numerator * unitsPerOne ≤ bound * denominator) :
    ∃ units, ofQuotient negative numerator denominator = .finite negative units ∧ units ≤ bound := by
  have below : rounded (numerator * unitsPerOne) denominator ≤ bound := rounded_le positive magnitude small
  refine ⟨_, ?_, below⟩
  rw [ofQuotient_eq, if_neg (Nat.not_le.mpr (below.trans_lt magnitude.2))]

theorem isMagnitude_mul {count bits : Nat} (few : count < 2 ^ 53)
    (small : count * 2 ^ bits < overflow) : IsMagnitude (count * 2 ^ bits) := by
  refine ⟨?_, small⟩
  by_cases zero : count = 0
  · rw [zero, Nat.zero_mul]
    exact Nat.one_dvd _
  · have some : count * 2 ^ bits ≠ 0 := Nat.mul_ne_zero zero (Nat.two_pow_pos bits).ne'
    have size : (count * 2 ^ bits).log2 < 53 + bits := by
      rw [Nat.log2_lt some, Nat.pow_add]
      exact Nat.mul_lt_mul_of_pos_right few (Nat.two_pow_pos bits)
    rw [spacing_eq]
    exact (Nat.pow_dvd_pow 2 (by omega)).trans (Nat.dvd_mul_left _ _)

end PageLoad.Number.Double

import PageLoad.Proofs.Number.Seconds

/-!
A number that is printed with two decimals and read back is printed the same again. Up to 2⁴⁶ numbers lie
closer together than hundredths do, so that the hundredths survive; from there on they lie further apart, so
that the number itself does.
-/

namespace PageLoad.Number

namespace Double

/-- The magnitude from which on numbers lie further apart than hundredths do. -/
def crossing : Nat := 1 * 2 ^ 46 * unitsPerOne

theorem isMagnitude_crossing : IsMagnitude crossing := isMagnitude_units (by decide) (by decide)

theorem unitsPerOne_large : ∃ point, 7 ≤ point ∧ unitsPerOne = 2 ^ point := by
  have shifted {point : Nat} (large : 7 ≤ point) : ∃ power, 7 ≤ power ∧ 1 <<< point = 2 ^ power :=
    ⟨point, large, Nat.one_shiftLeft point⟩
  exact shifted (by decide)

theorem spacing_fine {units : Nat} (small : units < crossing) : 128 * spacing units ≤ unitsPerOne := by
  obtain ⟨point, large, power⟩ := unitsPerOne_large
  have bits : units.log2 - 52 ≤ point - 7 := by
    by_cases zero : units = 0
    · rw [zero, Nat.log2_zero, Nat.zero_sub]
      exact Nat.zero_le _
    · rw [crossing, power, Nat.one_mul, ← Nat.pow_add, ← Nat.log2_lt zero] at small
      omega
  calc
    128 * spacing units = 2 ^ 7 * 2 ^ (units.log2 - 52) := congrArg (128 * ·) (spacing_eq units)
    _ ≤ 2 ^ 7 * 2 ^ (point - 7) := Nat.mul_le_mul_left _ (Nat.pow_le_pow_right (by decide) bits)
    _ = unitsPerOne := by rw [← Nat.pow_add, Nat.add_sub_cancel' large, power]

theorem spacing_coarse {units : Nat} (large : crossing ≤ units) : unitsPerOne ≤ 64 * spacing units := by
  obtain ⟨point, _, power⟩ := unitsPerOne_large
  rw [crossing, power, Nat.one_mul, ← Nat.pow_add] at large
  have some : units ≠ 0 := Nat.ne_of_gt ((Nat.two_pow_pos _).trans_le large)
  have bits := (Nat.le_log2 some).mpr large
  calc
    unitsPerOne ≤ 2 ^ (6 + (units.log2 - 52)) := power ▸ Nat.pow_le_pow_right (by decide) (by omega)
    _ = 64 * spacing units := by rw [Nat.pow_add, spacing_eq]

/-! What is read where a magnitude has been printed in hundredths. -/

def reread (units : Nat) : Nat := rounded (hundredths units * unitsPerOne) 100

theorem hundredths_whole (count : Nat) : hundredths (count * unitsPerOne) = 100 * count := by
  rw [hundredths, Nat.mul_right_comm, nearest_mul_self _ unitsPerOne_pos, Nat.mul_comm]

theorem hundredths_le {units count : Nat} (small : units ≤ count * unitsPerOne) : hundredths units ≤ 100 * count := by
  refine nearest_le unitsPerOne_pos ?_
  rw [Nat.mul_comm 100, Nat.mul_right_comm]
  exact Nat.mul_le_mul_right 100 small

theorem le_hundredths {units count : Nat} (large : count * unitsPerOne ≤ units) : 100 * count ≤ hundredths units := by
  refine le_nearest unitsPerOne_pos ?_
  rw [Nat.mul_comm 100, Nat.mul_right_comm]
  exact Nat.mul_le_mul_right 100 large

theorem reread_le {units count : Nat} (magnitude : IsMagnitude (count * unitsPerOne))
    (small : units ≤ count * unitsPerOne) : reread units ≤ count * unitsPerOne := by
  refine rounded_le (by decide) magnitude ?_
  rw [Nat.mul_right_comm]
  exact Nat.mul_le_mul_right unitsPerOne (Nat.mul_comm 100 count ▸ hundredths_le small)

theorem le_reread {units count : Nat} (magnitude : IsMagnitude (count * unitsPerOne))
    (large : count * unitsPerOne ≤ units) : count * unitsPerOne ≤ reread units := by
  refine le_rounded (by decide) magnitude ?_
  rw [Nat.mul_right_comm]
  exact Nat.mul_le_mul_right unitsPerOne (Nat.mul_comm 100 count ▸ le_hundredths large)

theorem hundredths_within (units : Nat) :
    2 * Nat.dist (units * 100) (hundredths units * unitsPerOne) ≤ unitsPerOne := by
  have ⟨above, below⟩ := nearest_within_half (units * 100) unitsPerOne_pos
  rw [← hundredths, Nat.add_mul, Nat.one_mul, Nat.mul_assoc] at above
  rw [← hundredths, Nat.mul_assoc] at below
  unfold Nat.dist
  omega

theorem eq_of_dvd_of_dist_lt {step a b : Nat} (first : step ∣ a) (second : step ∣ b)
    (near : Nat.dist a b < step) : a = b := by
  obtain ⟨times, rfl⟩ := first
  obtain ⟨times', rfl⟩ := second
  rw [Nat.dist_mul_left] at near
  have none : Nat.dist times times' < 1 := Nat.lt_of_mul_lt_mul_left (near.trans_eq (Nat.mul_one step).symm)
  rw [Nat.eq_of_dist_eq_zero (Nat.lt_one_iff.mp none)]

/-- From the crossing on, the number that was printed is the only one near enough. -/
theorem reread_of_crossing_le {units : Nat} (magnitude : IsMagnitude units) (large : crossing ≤ units) :
    reread units = units := by
  have some : units ≠ 0 := Nat.ne_of_gt ((Nat.mul_pos (by decide) unitsPerOne_pos).trans_le large)
  -- the power of two below is whole, so rounding does not fall short of it
  have power : ∃ count, 2 ^ units.log2 = count * unitsPerOne := by
    obtain ⟨point, _, isPower⟩ := unitsPerOne_large
    rw [crossing, isPower, Nat.one_mul, ← Nat.pow_add] at large
    have bits := (Nat.le_log2 some).mpr large
    refine ⟨2 ^ (units.log2 - point), ?_⟩
    rw [isPower, ← Nat.pow_add, Nat.sub_add_cancel (by omega)]
  obtain ⟨count, whole⟩ := power
  have below : 2 ^ units.log2 ≤ units := Nat.log2_self_le some
  have isMagnitude : IsMagnitude (2 ^ units.log2) :=
    ⟨spacing_dvd_two_pow (Nat.le_of_eq Nat.log2_two_pow), below.trans_lt magnitude.2⟩
  have least : 2 ^ units.log2 ≤ reread units := by
    rw [whole] at below isMagnitude ⊢
    exact le_reread isMagnitude below
  have positive : reread units ≠ 0 := Nat.ne_of_gt ((Nat.two_pow_pos _).trans_le least)
  have multiple : spacing units ∣ reread units :=
    (spacing_dvd_spacing (.inl ((Nat.le_log2 positive).mpr least))).trans (spacing_dvd_rounded _ (by decide))
  have near : Nat.dist (reread units * 100) (units * 100) < spacing units * 100 := by
    have first := rounded_least (hundredths units * unitsPerOne) (by decide : 0 < 100) magnitude
    have second := hundredths_within units
    have coarse := spacing_coarse large
    have apart := spacing_pos units
    have triangle := Nat.dist.triangle_inequality (reread units * 100) (hundredths units * unitsPerOne) (units * 100)
    rw [Nat.dist_comm (hundredths units * unitsPerOne)] at triangle
    rw [← reread] at first
    omega
  exact eq_of_dvd_of_dist_lt multiple magnitude.1 (Nat.lt_of_mul_lt_mul_right (Nat.dist_mul_right .. ▸ near))

/-- Below the crossing, the hundredths are the only ones near enough. -/
theorem hundredths_reread_of_lt {units : Nat} (small : hundredths units < 100 * 2 ^ 46) :
    hundredths (reread units) = hundredths units := by
  have quotient : hundredths units * unitsPerOne / 100 < crossing := by
    rw [Nat.div_lt_iff_lt_mul (by decide), crossing, Nat.one_mul, Nat.mul_right_comm, Nat.mul_comm _ 100]
    exact Nat.mul_lt_mul_of_pos_right small unitsPerOne_pos
  refine nearest_eq ?_
  have within := rounded_within (hundredths units * unitsPerOne) (by decide : 0 < 100)
  have fine := spacing_fine quotient
  have apart := spacing_pos (hundredths units * unitsPerOne / 100)
  rw [Nat.dist_comm, ← reread] at within
  omega

theorem hundredths_reread {units : Nat} (magnitude : IsMagnitude units) :
    hundredths (reread units) = hundredths units := by
  rcases Nat.lt_or_ge units crossing with small | large
  · have most : hundredths units ≤ 100 * (1 * 2 ^ 46) := hundredths_le small.le
    rcases Nat.lt_or_eq_of_le most with less | full
    · exact hundredths_reread_of_lt less
    · have exact : reread units = crossing := by
        rw [reread, full, crossing, Nat.mul_assoc 100, Nat.mul_comm 100]
        exact rounded_exact (by decide) isMagnitude_crossing
      rw [exact, full, crossing, hundredths_whole]
  · rw [reread_of_crossing_le magnitude large]

theorem isMagnitude_reread {units : Nat} (magnitude : IsMagnitude units) : IsMagnitude (reread units) := by
  refine ⟨spacing_dvd_rounded _ (by decide), ?_⟩
  rcases Nat.le_total units crossing with small | large
  · exact (reread_le isMagnitude_crossing small).trans_lt isMagnitude_crossing.2
  · rw [reread_of_crossing_le magnitude large]
    exact magnitude.2

theorem reread_lt_iff {units : Nat} (magnitude : IsMagnitude units) :
    reread units < 2 ^ 64 * unitsPerOne ↔ units < 2 ^ 64 * unitsPerOne := by
  rcases Nat.le_total units crossing with small | large
  · have inside : crossing < 2 ^ 64 * unitsPerOne := Nat.mul_lt_mul_of_pos_right (by decide) unitsPerOne_pos
    exact iff_of_true ((reread_le isMagnitude_crossing small).trans_lt inside) (small.trans_lt inside)
  · rw [reread_of_crossing_le magnitude large]

def IsTime (seconds : Double) : Prop :=
  ∃ negative units, seconds = .finite negative units ∧ (negative = true → units = 0) ∧ IsMagnitude units

theorem IsTime.admitted {seconds : Double} (time : seconds.IsTime) :
    (seconds.isFinite && !seconds.isBelowZero) = true := by
  obtain ⟨negative, units, rfl, zero, -⟩ := time
  cases negative with
  | false => rfl
  | true => rw [zero rfl]; rfl

end Double

open Double

/-! What is read is a number of 64 bits. -/

theorem isMagnitude_of_scaledDouble {negative sign : Bool} {digits units : Nat} {exponent : Int}
    (same : scaledDouble negative digits exponent = .finite sign units) : IsMagnitude units := by
  have positive : 0 < Nat.pow 10 (-exponent).toNat := Nat.pow_pos (by decide)
  unfold scaledDouble at same
  dsimp only at same
  split at same
  · cases same
    exact isMagnitude_zero
  · split at same
    · cases same
    · exact isMagnitude_of_ofQuotient positive same

theorem exists_scaledDouble {negative : Bool} {text : List Char} {number : Double}
    (read : readMagnitude? negative text = some number) :
    ∃ digits exponent, number = scaledDouble negative digits exponent := by
  unfold readMagnitude? at read
  dsimp only at read
  split at read <;> split at read
  · cases read
  · obtain ⟨exponent, -, scaled⟩ := Option.map_eq_some_iff.mp read
    exact ⟨_, _, scaled.symm⟩
  · cases read
  · obtain ⟨exponent, -, scaled⟩ := Option.map_eq_some_iff.mp read
    exact ⟨_, _, scaled.symm⟩

theorem isMagnitude_of_readDouble? {text : List Char} {negative : Bool} {units : Nat}
    (read : readDouble? text = some (.finite negative units)) : IsMagnitude units := by
  unfold readDouble? at read
  dsimp only at read
  split at read
  · cases read
  · split at read
    · cases read
    · obtain ⟨digits, exponent, scaled⟩ := exists_scaledDouble read
      exact isMagnitude_of_scaledDouble scaled.symm

/-! What is printed is read. -/

theorem length_hundredths_le (bits digits : Nat) (few : 100 * 2 ^ bits < 10 ^ digits) {units : Nat}
    (small : units < unitsPerOne <<< bits) (some : 0 < digits) :
    (toString (hundredths units)).length ≤ digits := by
  have most : hundredths units ≤ 100 * 2 ^ bits :=
    hundredths_le (small.le.trans_eq (by rw [Nat.shiftLeft_eq, Nat.mul_comm]))
  rw [← String.length_toList, toList_toString, Nat.length_toDigits_le_iff (by decide) some]
  exact most.trans_lt few

theorem readDouble?_negativeZero : (Double.finite true 0).fixed = "-0.00" ∧
    readDouble? "-0.00".toList = some (.finite true 0) := by decide +kernel

/-- What is read where a number of seconds has been printed with two decimals: a number that is printed the
same again, and that is no length of time only if the first is none. -/
theorem readDouble?_fixed_of_isTime {seconds : Double} (time : seconds.IsTime) :
    ∃ read, readDouble? seconds.fixed.toList = some read ∧ read.IsTime ∧ read.fixed = seconds.fixed ∧
      (read.IsSpan ↔ seconds.IsSpan) := by
  obtain ⟨negative, units, rfl, zero, magnitude⟩ := time
  cases negative with
  | true =>
    rw [zero rfl]
    refine ⟨_, readDouble?_negativeZero.1 ▸ readDouble?_negativeZero.2, ?_, rfl, Iff.rfl⟩
    exact ⟨true, 0, rfl, fun _ => rfl, isMagnitude_zero⟩
  | false =>
    have printed (units : Nat) : (Double.finite false units).fixed = hundredthsText (hundredths units) := by
      rw [Double.fixed, signText, if_neg Bool.false_ne_true, String.empty_append]
    have magnitude' := isMagnitude_reread magnitude
    have few := length_hundredths_le 1024 400 (by decide +kernel) magnitude.2 (by decide)
    have read : readDouble? (hundredthsText (hundredths units)).toList = some (.finite false (reread units)) := by
      rw [readDouble?_hundredths few, ofQuotient_eq, ← reread,
        if_neg (Nat.not_le.mpr magnitude'.2)]
    refine ⟨_, printed units ▸ read, ⟨false, _, rfl, fun below => (Bool.false_ne_true below).elim, magnitude'⟩, ?_, ?_⟩
    · rw [printed, printed, hundredths_reread magnitude]
    · rw [isSpan_positive, isSpan_positive, reread_lt_iff magnitude]

end PageLoad.Number

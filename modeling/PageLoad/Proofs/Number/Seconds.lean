import PageLoad.Proofs.Number.Digits
import PageLoad.Proofs.Number.Nearest
import PageLoad.Number.Duration
import Mathlib.Data.List.TakeWhile

/-!
A number of seconds is printed with two decimals, and what is read back is the number nearest to
what was printed.
-/

namespace PageLoad.Number

theorem unitsPerOne_power : ∃ point, unitsPerOne = 2 ^ point := by
  have shifted (point : Nat) : ∃ power, 1 <<< point = 2 ^ power := ⟨point, Nat.one_shiftLeft point⟩
  exact shifted _

theorem unitsPerOne_pos : 0 < unitsPerOne := by
  obtain ⟨point, power⟩ := unitsPerOne_power
  exact power ▸ Nat.two_pow_pos point

namespace Double

theorem lt_overflow {units : Nat} (small : units < 2 ^ 128 * unitsPerOne) : units < overflow := by
  have power {bits : Nat} (many : 128 ≤ bits) : 2 ^ 128 * unitsPerOne ≤ unitsPerOne <<< bits := by
    rw [Nat.shiftLeft_eq, Nat.mul_comm]
    exact Nat.mul_le_mul_left _ (Nat.pow_le_pow_right (by decide) many)
  exact small.trans_le (power (by decide))

theorem isMagnitude_units {count bits : Nat} (few : count < 2 ^ 53) (small : count * 2 ^ bits < 2 ^ 128) :
    IsMagnitude (count * 2 ^ bits * unitsPerOne) := by
  have limit := lt_overflow (Nat.mul_lt_mul_of_pos_right small unitsPerOne_pos)
  obtain ⟨point, power⟩ := unitsPerOne_power
  rw [power, Nat.mul_assoc, ← Nat.pow_add] at limit ⊢
  exact isMagnitude_mul few limit

def allowance (bits : Nat) : Nat := 3 * 2 ^ bits * unitsPerOne

theorem isMagnitude_allowance {bits : Nat} (few : bits ≤ 64) : IsMagnitude (allowance bits) := by
  have power : 2 ^ bits ≤ 2 ^ 64 := Nat.pow_le_pow_right (by decide) few
  exact isMagnitude_units (by decide) (by omega)

theorem isMagnitude_zero : IsMagnitude 0 := by
  have nothing : IsMagnitude (0 * 2 ^ 0 * unitsPerOne) := isMagnitude_units (by decide) (by decide)
  rwa [Nat.zero_mul, Nat.zero_mul] at nothing

theorem ofQuotient_zero (negative : Bool) {denominator : Nat} (positive : 0 < denominator) :
    ofQuotient negative 0 denominator = .finite negative 0 := by
  have small : 0 * unitsPerOne ≤ 0 * denominator := by rw [Nat.zero_mul, Nat.zero_mul]
  obtain ⟨units, isFinite, none⟩ := ofQuotient_le negative positive isMagnitude_zero small
  rw [isFinite, Nat.le_zero.mp none]

def centsText (cents : Nat) : List Char :=
  if cents < 10 then '0' :: (toString cents).toList else (toString cents).toList

theorem hundredthsText_toList (count : Nat) :
    (hundredthsText count).toList =
      (toString (count / 100)).toList ++ '.' :: centsText (count % 100) := by
  simp only [hundredthsText, centsText, String.toList_append]
  split <;> simp

theorem centsText_spec {cents : Nat} (small : cents < 100) :
    (centsText cents).length = 2 ∧ digitsValue (centsText cents) = cents ∧
      ∀ c ∈ centsText cents, c.isDigit = true := by
  unfold centsText
  split
  next single =>
    have digits : (toString cents).toList = [cents.digitChar] := by
      rw [toList_toString, Nat.toDigits_of_lt_base single]
    have zero : digitsValue ['0'] = 0 := rfl
    have value := digitsValue_append ['0'] (toString cents).toList
    rw [digitsValue_toString, zero, Nat.mul_zero, Nat.zero_add] at value
    refine ⟨by rw [digits]; rfl, value, ?_⟩
    · intro c member
      rcases List.mem_cons.mp member with rfl | later
      · rfl
      · exact isDigit_of_mem later
  next double =>
    refine ⟨?_, digitsValue_toString cents, fun _ member => isDigit_of_mem member⟩
    rw [toList_toString, Nat.toDigits_of_base_le (by decide) (by omega),
      Nat.toDigits_of_lt_base (by omega)]
    rfl

theorem hundredthsText_chars {count : Nat} {c : Char} (member : c ∈ (hundredthsText count).toList) :
    IsDotted c := by
  rw [hundredthsText_toList, List.mem_append, List.mem_cons] at member
  rcases member with whole | rfl | part
  · exact .inl (isDigit_of_mem whole)
  · exact .inr rfl
  · exact .inl ((centsText_spec (Nat.mod_lt _ (by decide))).2.2 c part)

def wordChars : List Char := ['-', 'N', 'a', 'i', 'n', 'f']

theorem signText_subset (negative : Bool) : (signText negative).toList ⊆ wordChars := by
  cases negative <;> simp [signText, wordChars]

theorem fixed_chars (seconds : Double) : ∀ c ∈ seconds.fixed.toList, IsDotted c ∨ c ∈ wordChars := by
  have words : "NaN".toList ⊆ wordChars ∧ "inf".toList ⊆ wordChars := by simp [wordChars]
  intro c member
  cases seconds with
  | nan => exact .inr (words.1 member)
  | infinite negative =>
    rw [fixed, String.toList_append, List.mem_append] at member
    rcases member with first | word
    · exact .inr (signText_subset negative first)
    · exact .inr (words.2 word)
  | finite negative units =>
    rw [fixed, String.toList_append, List.mem_append] at member
    rcases member with first | digits
    · exact .inr (signText_subset negative first)
    · exact .inl (hundredthsText_chars digits)

theorem splitSign_hundredths (count : Nat) :
    splitSign (hundredthsText count).toList = (false, (hundredthsText count).toList) := by
  unfold splitSign
  split
  next rest same =>
    have first : IsDotted '-' := hundredthsText_chars (same ▸ List.mem_cons_self)
    exact (first.ne rfl (by decide) rfl).elim
  next rest same =>
    have first : IsDotted '+' := hundredthsText_chars (same ▸ List.mem_cons_self)
    exact (first.ne rfl (by decide) rfl).elim
  next => rfl

theorem toLower_of_isDigit {c : Char} (digit : c.isDigit = true) : c.toLower = c := by
  have range := Char.isDigit_iff_toNat.mp digit
  refine dif_neg fun upper => ?_
  have least : 65 ≤ c.toNat := UInt32.le_iff_toNat_le.mp upper.1
  have most : c.toNat ≤ 57 := range.2
  omega

theorem hundredths_wordless (count : Nat) :
    'n' ∉ (hundredthsText count).toList.map Char.toLower := by
  intro member
  obtain ⟨c, present, lower⟩ := List.mem_map.mp member
  rcases hundredthsText_chars present with digit | rfl
  · rw [toLower_of_isDigit digit] at lower
    rw [lower] at digit
    exact absurd digit (by decide)
  · exact absurd lower (by decide)

theorem readMagnitude?_hundredths (count : Nat) :
    readMagnitude? false (hundredthsText count).toList = some (scaledDouble false count (-2)) := by
  have ⟨two, value, digits⟩ := centsText_spec (Nat.mod_lt count (Nat.succ_pos 99))
  have whole : ∀ c ∈ (toString (count / 100)).toList, c.isDigit = true :=
    fun _ member => isDigit_of_mem member
  have all : digitsValue ((toString (count / 100)).toList ++ centsText (count % 100)) = count := by
    rw [digitsValue_append, two, value, digitsValue_toString]
    exact Nat.div_add_mod count 100
  have taken : ((toString (count / 100)).toList ++ '.' :: centsText (count % 100)).takeWhile
      Char.isDigit = (toString (count / 100)).toList := by
    rw [List.takeWhile_append_of_pos whole, List.takeWhile_cons_of_neg (by decide), List.append_nil]
  have left : ((toString (count / 100)).toList ++ '.' :: centsText (count % 100)).dropWhile
      Char.isDigit = '.' :: centsText (count % 100) := by
    rw [List.dropWhile_append_of_pos whole, List.dropWhile_cons_of_neg (by decide)]
  have fraction : (centsText (count % 100)).takeWhile Char.isDigit = centsText (count % 100) :=
    List.takeWhile_eq_self_iff.mpr digits
  have rest : (centsText (count % 100)).dropWhile Char.isDigit = [] :=
    List.dropWhile_eq_nil_iff.mpr digits
  have some : (toString (count / 100)).toList ≠ [] := toString_ne_nil _
  simp only [readMagnitude?, hundredthsText_toList, taken, left, fraction, rest, readExponent?,
    Option.map_some, all, two]
  simp only [some, decide_false, Bool.false_and]
  rfl

end Double

theorem scaledDouble_hundredths {count : Nat} (small : (toString count).length ≤ 400) :
    scaledDouble false count (-2) = Double.ofQuotient false count 100 := by
  have inside : ¬(400 : Int) < -2 + (toString count).length := by omega
  by_cases zero : count = 0
  · rw [zero, Double.ofQuotient_zero false (Nat.succ_pos 99)]
    simp only [scaledDouble, decide_true, Bool.true_or, if_true]
  · have one : Nat.pow 10 (-2 : Int).toNat = 1 := rfl
    have hundred : Nat.pow 10 (-(-2) : Int).toNat = 100 := rfl
    unfold scaledDouble
    have proper : ¬(decide (count = 0) || decide ((-2 : Int) + (toString count).length < -400)) = true := by
      simp only [zero, decide_false, Bool.false_or, decide_eq_true_eq]
      omega
    rw [if_neg proper, if_neg inside, one, hundred, Nat.mul_one]

theorem readDouble?_hundredths {count : Nat} (small : (toString count).length ≤ 400) :
    readDouble? (Double.hundredthsText count).toList = some (Double.ofQuotient false count 100) := by
  have wordless := Double.hundredths_wordless count
  have differs (word : String) (spelled : 'n' ∈ word.toList) :
      String.ofList ((Double.hundredthsText count).toList.map Char.toLower) ≠ word := by
    rintro rfl
    rw [String.toList_ofList] at spelled
    exact wordless spelled
  simp only [readDouble?, Double.splitSign_hundredths, differs "nan" (by decide),
    differs "inf" (by decide), differs "infinity" (by decide), decide_false, Bool.or_self]
  exact (Double.readMagnitude?_hundredths count).trans (congrArg some (scaledDouble_hundredths small))

/-- A length of time below a power of two of seconds is a finite number that is hardly larger. -/
theorem secondsOf_le {nanoseconds bits : Nat} (few : bits ≤ 64)
    (measured : nanoseconds < 2 ^ (bits + 1) * nanosecondsPerSecond) :
    ∃ units, secondsOf nanoseconds = .finite false units ∧ units ≤ Double.allowance bits := by
  have second : 0 < nanosecondsPerSecond := by decide
  have power : 2 ^ bits ≤ 2 ^ 64 := Nat.pow_le_pow_right (by decide) few
  have double : 2 ^ (bits + 1) = 2 ^ bits * 2 := Nat.pow_succ ..
  have seconds : nanoseconds / nanosecondsPerSecond * unitsPerOne ≤ 1 * 2 ^ (bits + 1) * unitsPerOne * 1 := by
    rw [Nat.mul_one, Nat.one_mul]
    exact Nat.mul_le_mul_right _ (Nat.le_of_lt ((Nat.div_lt_iff_lt_mul second).mpr measured))
  have rest : nanoseconds % nanosecondsPerSecond * unitsPerOne ≤
      1 * 2 ^ 0 * unitsPerOne * nanosecondsPerSecond := by
    rw [Nat.pow_zero, Nat.one_mul, Nat.mul_comm unitsPerOne]
    exact Nat.mul_le_mul_right _ (Nat.le_of_lt (Nat.mod_lt _ second))
  obtain ⟨whole, isWhole, wholeBound⟩ := Double.ofQuotient_le false Nat.one_pos
    (Double.isMagnitude_units (by decide) (by omega)) seconds
  obtain ⟨part, isPart, partBound⟩ := Double.ofQuotient_le false second
    (Double.isMagnitude_units (by decide) (by decide)) rest
  have sum : whole + part ≤ Double.allowance bits := calc
    whole + part ≤ 1 * 2 ^ (bits + 1) * unitsPerOne + 1 * 2 ^ 0 * unitsPerOne :=
      Nat.add_le_add wholeBound partBound
    _ = (1 * 2 ^ (bits + 1) + 1 * 2 ^ 0) * unitsPerOne := (Nat.add_mul ..).symm
    _ ≤ Double.allowance bits := by
      have one : 1 ≤ 2 ^ bits := Nat.one_le_two_pow
      exact Nat.mul_le_mul_right _ (by omega)
  obtain ⟨units, isSum, bound⟩ := Double.ofQuotient_le false unitsPerOne_pos
    (Double.isMagnitude_allowance few) (Nat.mul_le_mul_right unitsPerOne sum)
  exact ⟨units, by rw [secondsOf, isWhole, isPart, addSeconds, Double.addMagnitudes, isSum], bound⟩

/-- A number that is not too large is printed in hundredths, and what is read back is the number
nearest to those, which is not too large either. -/
theorem readDouble?_fixed {units bits : Nat} (few : bits ≤ 64) (bound : units ≤ Double.allowance bits) :
    ∃ count read, (Double.finite false units).fixed = Double.hundredthsText count ∧
      .ofQuotient false count 100 = Double.finite false read ∧
      readDouble? (Double.hundredthsText count).toList = some (.finite false read) ∧
      read ≤ Double.allowance bits := by
  have hundred (n : Nat) : 300 * 2 ^ bits * n = 3 * 2 ^ bits * n * 100 := by
    rw [Nat.mul_right_comm _ n, Nat.mul_right_comm 3]
  have most : Double.hundredths units ≤ 300 * 2 ^ bits := by
    refine Double.nearest_le unitsPerOne_pos ?_
    rw [hundred]
    exact Nat.mul_le_mul_right 100 bound
  have short : (toString (Double.hundredths units)).length ≤ 400 := by
    have power : 2 ^ bits ≤ 2 ^ 64 := Nat.pow_le_pow_right (by decide) few
    have digits : (Nat.toDigits 10 (Double.hundredths units)).length ≤ 24 := by
      rw [Nat.length_toDigits_le_iff (by decide) (by decide)]
      omega
    rw [← String.length_toList, toList_toString]
    omega
  have scaled : Double.hundredths units * unitsPerOne ≤ Double.allowance bits * 100 := by
    rw [Double.allowance, ← hundred]
    exact Nat.mul_le_mul_right unitsPerOne most
  obtain ⟨read, isRead, small⟩ := Double.ofQuotient_le false (Nat.succ_pos 99)
    (Double.isMagnitude_allowance few) scaled
  refine ⟨Double.hundredths units, read, ?_, isRead, ?_, small⟩
  · rw [Double.fixed, Double.signText, if_neg Bool.false_ne_true, String.empty_append]
  · rw [readDouble?_hundredths short, isRead]

/-- Whether a number of seconds is neither below zero nor as large as 2⁶⁴. Both zeros are such
numbers. -/
def Double.IsSpan (seconds : Double) : Prop :=
  ∃ negative units, seconds = .finite negative units ∧ (negative = true → units = 0) ∧
    units < 2 ^ 64 * unitsPerOne

theorem Double.isSpan_finite {negative : Bool} {units : Nat} : (Double.finite negative units).IsSpan ↔
    (negative = true → units = 0) ∧ units < 2 ^ 64 * unitsPerOne := by
  simp [Double.IsSpan]

theorem Double.isSpan_positive {units : Nat} :
    (Double.finite false units).IsSpan ↔ units < 2 ^ 64 * unitsPerOne := by
  rw [isSpan_finite]
  exact and_iff_right nofun

theorem nanosecondsOf?_isSome_iff {seconds : Double} : (nanosecondsOf? seconds).isSome ↔ seconds.IsSpan := by
  have unbound {other : Double} (special : ∀ negative units, other ≠ .finite negative units) : ¬other.IsSpan := by
    rintro ⟨negative, units, same, -⟩
    exact special negative units same
  cases seconds with
  | nan => exact iff_of_false (by simp [nanosecondsOf?]) (unbound fun _ _ => nofun)
  | infinite => exact iff_of_false (by simp [nanosecondsOf?]) (unbound fun _ _ => nofun)
  | finite negative units =>
    have size : UInt64.size = 2 ^ 64 := rfl
    rw [Double.isSpan_finite, nanosecondsOf?, size]
    split
    next excluded =>
      simp only [Bool.or_eq_true, Bool.and_eq_true, decide_eq_true_eq] at excluded
      simp only [Option.isSome_none, Bool.false_eq_true, false_iff, not_and, Nat.not_lt]
      rcases excluded with ⟨below, some⟩ | large
      · exact fun zero => (some (zero below)).elim
      · exact fun _ => large
    next kept =>
      simp only [Bool.or_eq_true, Bool.and_eq_true, decide_eq_true_eq, not_or, not_and, not_not,
        Nat.not_le] at kept
      simp only [Option.isSome_some, true_iff]
      exact kept

end PageLoad.Number

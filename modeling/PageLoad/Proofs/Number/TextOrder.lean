import PageLoad.Number.Shortest
import PageLoad.Proofs.Number.Digits
import Mathlib.Data.String.Basic
import Mathlib.Tactic.Ring

/-!
Numbers in the order of their characters. Digits are compared as if they stood behind a decimal point, so
`10` comes before `2`; of those that are worth the same there, as `1` and `10` are, the shorter come first.
-/

namespace PageLoad.Number

/-- Whether the digits of a number, behind a decimal point, are worth no more than those of another. -/
def FractionLE (i j : Nat) : Prop := i * 10 ^ digitCount j ≤ j * 10 ^ digitCount i

instance (i j : Nat) : Decidable (FractionLE i j) := inferInstanceAs (Decidable (_ ≤ _))

def digitOf (c : Char) : Nat := c.toNat - '0'.toNat

theorem digitsValue_cons (c : Char) (digits : List Char) :
    digitsValue (c :: digits) = digitOf c * 10 ^ digits.length + digitsValue digits := by
  have parts := digitsValue_append [c] digits
  rw [List.singleton_append] at parts
  rw [parts, Nat.mul_comm]
  simp [digitsValue, digitOf]

theorem digitOf_lt {c : Char} (digit : c.isDigit = true) : digitOf c < 10 := by
  have ⟨_, upper⟩ := Char.isDigit_iff_toNat.mp digit
  have nine : '9'.toNat = 57 := rfl
  have zero : '0'.toNat = 48 := rfl
  rw [digitOf]
  omega

theorem digitOf_lt_digitOf {c other : Char} (digit : c.isDigit = true) (less : c < other) :
    digitOf c < digitOf other := by
  have ⟨lower, _⟩ := Char.isDigit_iff_toNat.mp digit
  have codes : c.toNat < other.toNat := less
  rw [digitOf, digitOf]
  omega

theorem digitsValue_lt {digits : List Char} (isDigits : ∀ c ∈ digits, c.isDigit = true) :
    digitsValue digits < 10 ^ digits.length := by
  induction digits with
  | nil => decide
  | cons c digits ih =>
    have rest := ih fun other member => isDigits other (List.mem_cons_of_mem c member)
    have first := digitOf_lt (isDigits c List.mem_cons_self)
    rw [digitsValue_cons, List.length_cons]
    calc
      _ < digitOf c * 10 ^ digits.length + 10 ^ digits.length := Nat.add_lt_add_left rest _
      _ = (digitOf c + 1) * 10 ^ digits.length := by ring
      _ ≤ 10 * 10 ^ digits.length := Nat.mul_le_mul_right _ first
      _ = _ := by ring

theorem digitsValue_cons_lt {c other : Char} {digits others : List Char}
    (isDigits : ∀ d ∈ c :: digits, d.isDigit = true) (less : c < other) :
    digitsValue (c :: digits) * 10 ^ (other :: others).length <
      digitsValue (other :: others) * 10 ^ (c :: digits).length := by
  have rest := digitsValue_lt fun d member => isDigits d (List.mem_cons_of_mem c member)
  have first := digitOf_lt_digitOf (isDigits c List.mem_cons_self) less
  rw [digitsValue_cons, digitsValue_cons, List.length_cons, List.length_cons]
  calc
    _ < (digitOf c * 10 ^ digits.length + 10 ^ digits.length) * 10 ^ (others.length + 1) :=
      Nat.mul_lt_mul_of_pos_right (Nat.add_lt_add_left rest _) (Nat.pow_pos (by decide))
    _ = (digitOf c + 1) * 10 ^ others.length * 10 ^ (digits.length + 1) := by ring
    _ ≤ digitOf other * 10 ^ others.length * 10 ^ (digits.length + 1) :=
      Nat.mul_le_mul_right _ (Nat.mul_le_mul_right _ first)
    _ ≤ _ := Nat.mul_le_mul_right _ (Nat.le_add_right _ _)

theorem digitsValue_cons_scaled (c : Char) (digits others : List Char) :
    digitsValue (c :: digits) * 10 ^ (others.length + 1) =
      digitOf c * 10 ^ (digits.length + others.length + 1) +
        10 * (digitsValue digits * 10 ^ others.length) := by
  rw [digitsValue_cons]
  ring

theorem digits_lt_iff {digits others : List Char} (isDigits : ∀ c ∈ digits, c.isDigit = true)
    (isDigits' : ∀ c ∈ others, c.isDigit = true) : digits < others ↔
      digitsValue digits * 10 ^ others.length < digitsValue others * 10 ^ digits.length ∨
      (digitsValue digits * 10 ^ others.length = digitsValue others * 10 ^ digits.length ∧
        digits.length < others.length) := by
  induction digits generalizing others with
  | nil =>
    cases others with
    | nil => simp
    | cons other others =>
      refine iff_of_true (List.nil_lt_cons other others) ?_
      have none : digitsValue [] = 0 := rfl
      rw [none, List.length_nil, List.length_cons]
      omega
  | cons c digits ih =>
    cases others with
    | nil => exact iff_of_false (List.not_lt_nil _) (by simp [digitsValue])
    | cons other others =>
      rw [List.cons_lt_cons_iff]
      obtain less | rfl | greater := lt_trichotomy c other
      · exact iff_of_true (.inl less) (.inl (digitsValue_cons_lt isDigits less))
      · have later := ih (fun d member => isDigits d (List.mem_cons_of_mem c member))
          fun d member => isDigits' d (List.mem_cons_of_mem c member)
        rw [List.length_cons, List.length_cons, digitsValue_cons_scaled, digitsValue_cons_scaled,
          Nat.add_comm others.length digits.length]
        simp only [lt_irrefl, false_or, true_and, later]
        omega
      · have more : digitsValue (other :: others) * 10 ^ (c :: digits).length <
            digitsValue (c :: digits) * 10 ^ (other :: others).length :=
          digitsValue_cons_lt isDigits' greater
        refine iff_of_false ?_ (by omega)
        rintro (less | ⟨rfl, _⟩)
        · exact lt_asymm less greater
        · exact lt_irrefl c greater

/-- The smaller of two numbers comes first exactly if its digits are worth no more. -/
theorem toString_lt_iff {i j : Nat} (less : i < j) : toString i < toString j ↔ FractionLE i j := by
  rw [String.lt_iff_toList_lt, digits_lt_iff (fun _ => isDigit_of_mem) fun _ => isDigit_of_mem, digitsValue_toString,
    digitsValue_toString, String.length_toList, String.length_toList, FractionLE, digitCount, digitCount]
  constructor
  · rintro (below | ⟨same, _⟩)
    · exact below.le
    · exact same.le
  · intro below
    obtain below | same := below.lt_or_eq
    · exact .inl below
    · refine .inr ⟨same, Nat.lt_of_not_le fun long => ?_⟩
      -- with as many digits the smaller number is worth less
      have tens : 10 ^ (toString j).length ≤ 10 ^ (toString i).length := Nat.pow_le_pow_right (by decide) long
      have worth : i * 10 ^ (toString j).length < j * 10 ^ (toString j).length :=
        Nat.mul_lt_mul_of_pos_right less (Nat.pow_pos (by decide))
      exact absurd same (worth.trans_le (Nat.mul_le_mul_left j tens)).ne

example : FractionLE 1 10 ∧ ¬ FractionLE 2 10 := by decide

theorem fractionLE_of_digitCount_eq {i j : Nat} (same : digitCount i = digitCount j) (less : i < j) :
    FractionLE i j := by
  rw [FractionLE, same]
  exact Nat.mul_le_mul_right _ less.le

/-- Some numbers in the order of their characters are in their own order exactly if each leads with digits
that are worth no more than those of the larger ones. -/
theorem pairwise_lt_iff {numbers : List Nat} (sorted : numbers.Pairwise fun i j => toString i < toString j) :
    numbers.Pairwise (· < ·) ↔ ∀ i ∈ numbers, ∀ j ∈ numbers, i < j → FractionLE i j := by
  constructor
  · intro increasing i member j member' less
    have self : ∀ i ∈ numbers, i < i → toString i < toString i := fun i _ less => absurd less (lt_irrefl i)
    have forward : numbers.Pairwise fun i j => i < j → toString i < toString j :=
      sorted.imp fun {i j} first (_ : i < j) => first
    have backward : numbers.Pairwise (flip fun i j => i < j → toString i < toString j) :=
      increasing.imp fun less greater => absurd less greater.asymm
    exact (toString_lt_iff less).mp (forward.forall_of_forall_of_flip self backward member member' less)
  · intro leads
    refine sorted.imp_of_mem fun {i j} member member' first => ?_
    obtain less | rfl | greater := lt_trichotomy i j
    · exact less
    · exact (lt_irrefl _ first).elim
    · have second := (toString_lt_iff greater).mpr (leads j member' i member greater)
      exact (lt_asymm first second).elim

end PageLoad.Number

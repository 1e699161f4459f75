import PageLoad.Number.Reading
import Mathlib.Algebra.Ring.Nat

/-!
Whole numbers are read as they are written.
-/

namespace PageLoad.Number

theorem toList_toString (n : Nat) : (toString n).toList = Nat.toDigits 10 n := by
  rw [Nat.toString_eq_ofList_toDigits, String.toList_ofList]

theorem isDigit_of_mem {n : Nat} {c : Char} (member : c ∈ (toString n).toList) : c.isDigit = true := by
  rw [toList_toString] at member
  exact Nat.isDigit_of_mem_toDigits (by decide) (by decide) member

theorem toString_ne_nil (n : Nat) : (toString n).toList ≠ [] := by
  rw [toList_toString]
  exact Nat.toDigits_ne_nil

theorem digitsValue_append (digits more : List Char) :
    digitsValue (digits ++ more) = 10 ^ more.length * digitsValue digits + digitsValue more := by
  have shifted (value : Nat) : more.foldl (fun value c => 10 * value + (c.toNat - '0'.toNat)) value =
      10 ^ more.length * value + digitsValue more := by
    rw [digitsValue, ← Nat.ofDigitChars_eq_foldl, ← Nat.ofDigitChars_eq_foldl,
      Nat.ofDigitChars_eq_ofDigitChars_zero]
  rw [digitsValue, List.foldl_append, shifted]
  rfl

theorem digitsValue_toString (n : Nat) : digitsValue (toString n).toList = n := by
  rw [toList_toString, digitsValue, ← Nat.ofDigitChars_eq_foldl]
  exact Nat.ofDigitChars_ten_toDigits

theorem eq_of_toString_toList_eq {i j : Nat} (same : (toString i).toList = (toString j).toList) : i = j := by
  rw [← digitsValue_toString i, same, digitsValue_toString]

theorem readDigits?_toString (n : Nat) : readDigits? (toString n).toList = some n := by
  have digits : (toString n).toList.all Char.isDigit = true :=
    List.all_eq_true.mpr fun _ member => isDigit_of_mem member
  have some : (toString n).toList ≠ [] := toString_ne_nil n
  simp only [readDigits?, digits, digitsValue_toString, ne_eq, some, not_false_eq_true, decide_true,
    Bool.and_self, if_true]

theorem dropPlus_toString (n : Nat) : dropPlus (toString n).toList = (toString n).toList := by
  unfold dropPlus
  split
  next rest same =>
    have digit := isDigit_of_mem (same ▸ List.mem_cons_self)
    cases digit
  next => rfl

theorem readNat?_toString {n bound : Nat} (small : n < bound) :
    readNat? bound (toString n).toList = some n := by
  rw [readNat?, dropPlus_toString, readDigits?_toString]
  simp [small]

def IsCount (bound : Nat) (text : List Char) (n : Nat) : Prop :=
  ∃ digits, (text = digits ∨ text = '+' :: digits) ∧ digits ≠ [] ∧ (∀ c ∈ digits, c.isDigit = true) ∧
    Nat.ofDigitChars 10 digits 0 = n ∧ n < bound

theorem readDigits?_eq_some_iff {text : List Char} {n : Nat} : readDigits? text = some n ↔
    text ≠ [] ∧ (∀ c ∈ text, c.isDigit = true) ∧ Nat.ofDigitChars 10 text 0 = n := by
  rw [readDigits?, digitsValue, ← Nat.ofDigitChars_eq_foldl]
  simp only [ne_eq, decide_not, Bool.and_eq_true, Bool.not_eq_true', decide_eq_false_iff_not,
    List.all_eq_true, Option.ite_none_right_eq_some, Option.some.injEq, and_assoc]

theorem dropPlus_of_isDigit {text : List Char} (digits : ∀ c ∈ text, c.isDigit = true) :
    dropPlus text = text := by
  unfold dropPlus
  split
  next => cases digits '+' List.mem_cons_self
  next => rfl

theorem eq_or_cons_dropPlus (text : List Char) : text = dropPlus text ∨ text = '+' :: dropPlus text := by
  unfold dropPlus
  split
  next => exact .inr rfl
  next => exact .inl rfl

theorem readNat?_eq_some_iff {bound : Nat} {text : List Char} {n : Nat} :
    readNat? bound text = some n ↔ IsCount bound text n := by
  rw [readNat?, Option.filter_eq_some_iff, readDigits?_eq_some_iff, decide_eq_true_eq]
  constructor
  · rintro ⟨⟨some, digits, value⟩, small⟩
    exact ⟨dropPlus text, eq_or_cons_dropPlus text, some, digits, value, small⟩
  · rintro ⟨digits, spelled, some, isDigits, value, small⟩
    have dropped : dropPlus text = digits := by
      rcases spelled with rfl | rfl
      · exact dropPlus_of_isDigit isDigits
      · rfl
    rw [dropped]
    exact ⟨⟨some, isDigits, value⟩, small⟩

def IsDotted (c : Char) : Prop := c.isDigit = true ∨ c = '.'

theorem isDotted_toString (n : Nat) : ∀ c ∈ (toString n).toList, IsDotted c :=
  fun _ member => .inl (isDigit_of_mem member)

theorem IsDotted.ne {c other : Char} (dotted : IsDotted c) (digit : other.isDigit = false)
    (point : other ≠ '.') : c ≠ other := by
  rintro rfl
  rcases dotted with isDigit | same
  · exact Bool.false_ne_true (digit.symm.trans isDigit)
  · exact point same

theorem point_not_mem_toString (n : Nat) : '.' ∉ (toString n).toList := by
  intro member
  exact absurd (isDigit_of_mem member) (by decide)

/-- What stands behind the last point is a number of its own. -/
theorem append_number_injective {front other : List Char} {i j : Nat}
    (same : front ++ '.' :: (toString i).toList = other ++ '.' :: (toString j).toList) :
    front = other ∧ i = j := by
  have pointless (n : Nat) (start : List Char) (digits : List Char) :
      (toString n).toList ≠ start ++ '.' :: digits := by
    intro equal
    exact point_not_mem_toString n (equal ▸ by simp)
  rcases List.append_eq_append_iff.mp same with ⟨between, rfl, rest⟩ | ⟨between, rfl, rest⟩
  · cases between with
    | nil => exact ⟨(List.append_nil front).symm, eq_of_toString_toList_eq (List.cons.inj rest).2⟩
    | cons c between => exact (pointless i between _ (List.cons.inj rest).2).elim
  · cases between with
    | nil => exact ⟨List.append_nil other, eq_of_toString_toList_eq (List.cons.inj rest).2.symm⟩
    | cons c between => exact (pointless j between _ (List.cons.inj rest).2).elim

end PageLoad.Number

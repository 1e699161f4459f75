import PageLoad.Http.Field
import PageLoad.Proofs.Number.Seconds
import PageLoad.Proofs.Text.Utf8

/-!
A text of printable ASCII characters can be sent as the value of a field, and arrives as it is.
-/

namespace PageLoad.Http
open Number Text

def Spells (value : List UInt8) (text : List Char) : Prop :=
  (∀ b ∈ value, 32 ≤ b ∧ b < 127 ∨ b = 9) ∧ text = value.map fun b => Char.ofNat b.toNat

theorem valueText?_eq_some_iff {value : List UInt8} {text : List Char} :
    valueText? value = some text ↔ Spells value text := by
  simp only [valueText?, Spells, List.all_eq_true, Bool.or_eq_true, Bool.and_eq_true, decide_eq_true_eq,
    Option.ite_none_right_eq_some, Option.some.injEq, eq_comm (a := text)]

def IsPrintable (c : Char) : Prop := 32 ≤ c.toNat ∧ c.toNat < 127

theorem isPrintable_of_isDotted {c : Char} (dotted : IsDotted c) : IsPrintable c := by
  rcases dotted with digit | rfl
  · have range := Char.isDigit_iff_toNat.mp digit
    have least : 48 ≤ c.toNat := range.1
    have most : c.toNat ≤ 57 := range.2
    exact ⟨by omega, by omega⟩
  · exact ⟨by decide, by decide⟩

theorem isPrintable_fixed (seconds : Double) : ∀ c ∈ seconds.fixed.toList, IsPrintable c := by
  have other : ∀ c ∈ Double.wordChars, IsPrintable c := by simp [Double.wordChars, IsPrintable]
  intro c member
  exact (seconds.fixed_chars c member).elim isPrintable_of_isDotted (other c)

variable {text : String}

theorem printable_bytes (printable : ∀ c ∈ text.toList, IsPrintable c) :
    text.toUTF8.toList = text.toList.map fun c => UInt8.ofNat c.toNat := by
  rw [Utf8.toUTF8_toList, Utf8.encode_ascii fun c member => Nat.lt_succ_of_lt (printable c member).2]

theorem printable_byte {c : Char} (printable : IsPrintable c) :
    32 ≤ UInt8.ofNat c.toNat ∧ UInt8.ofNat c.toNat < 127 := by
  have same := Utf8.toNat_byte c.toNat (Nat.lt_of_lt_of_le printable.2 (by decide))
  rw [UInt8.le_iff_toNat_le, UInt8.lt_iff_toNat_lt, same]
  exact printable

theorem isValue_printable (printable : ∀ c ∈ text.toList, IsPrintable c) :
    isValue text.toUTF8.toList = true := by
  rw [printable_bytes printable, isValue, List.all_map, List.all_eq_true]
  intro c member
  have ⟨least, most⟩ := printable_byte (printable c member)
  have proper : UInt8.ofNat c.toNat ≠ 127 := fun same => by
    rw [same] at most
    exact absurd most (by decide)
  simp [isValueByte, least, proper]

theorem valueText?_printable (printable : ∀ c ∈ text.toList, IsPrintable c) :
    valueText? text.toUTF8.toList = some text.toList := by
  have visible : (text.toList.map fun c => UInt8.ofNat c.toNat).all
      (fun b => (32 ≤ b && b < 127) || b = 9) = true := by
    rw [List.all_map, List.all_eq_true]
    intro c member
    have ⟨least, most⟩ := printable_byte (printable c member)
    simp [least, most]
  have same : ∀ c ∈ text.toList, Char.ofNat (UInt8.ofNat c.toNat).toNat = c := fun c member => by
    rw [Utf8.toNat_byte c.toNat (Nat.lt_of_lt_of_le (printable c member).2 (by decide)), Char.ofNat_toNat]
  rw [printable_bytes printable, valueText?, if_pos visible, List.map_map]
  exact congrArg some (List.map_congr_left same |>.trans (List.map_id _))

end PageLoad.Http

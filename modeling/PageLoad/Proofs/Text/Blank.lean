import PageLoad.Proofs.Number.Seconds
import PageLoad.Text.Blank

/-!
Text without white space at its ends stays as it is when it is trimmed.
-/

namespace PageLoad.Text
open Number

theorem forall_mem_of_all {P : Char → Prop} [DecidablePred P] {text : List Char}
    (all : text.all (fun c => decide (P c)) = true) : ∀ c ∈ text, P c :=
  fun c member => of_decide_eq_true (List.all_eq_true.mp all c member)

theorem isBlank_of_isDigit {c : Char} (digit : c.isDigit = true) : isBlank c = false := by
  have range := Char.isDigit_iff_toNat.mp digit
  have least : 48 ≤ c.toNat := range.1
  have most : c.toNat ≤ 57 := range.2
  simp only [isBlank, Bool.or_eq_false_iff, Bool.and_eq_false_iff, decide_eq_false_iff_not]
  omega

theorem isBlank_of_isDotted {c : Char} (dotted : IsDotted c) : isBlank c = false := by
  rcases dotted with digit | rfl
  · exact isBlank_of_isDigit digit
  · rfl

theorem isBlank_fixed (seconds : Double) : ∀ c ∈ seconds.fixed.toList, isBlank c = false := by
  have other : ∀ c ∈ Double.wordChars, isBlank c = false := by simp [Double.wordChars, isBlank]
  intro c member
  exact (seconds.fixed_chars c member).elim isBlank_of_isDotted (other c)

theorem dropWhile_of_head {p : Char → Bool} {text : List Char}
    (stays : ∀ c ∈ text.head?, p c = false) : text.dropWhile p = text := by
  cases text with
  | nil => rfl
  | cons c rest => exact List.dropWhile_cons_of_neg (by simp [stays c rfl])

theorem takeWhile_of_head {p : Char → Bool} {text : List Char}
    (stays : ∀ c ∈ text.head?, p c = false) : text.takeWhile p = [] := by
  have parts := List.takeWhile_append_dropWhile (p := p) (l := text)
  rw [dropWhile_of_head stays] at parts
  exact List.append_left_eq_self.mp parts

theorem split_at_first {mark : Char} {first : List Char} (markless : mark ∉ first) (second : List Char) :
    (first ++ mark :: second).takeWhile (· ≠ mark) = first ∧
      (first ++ mark :: second).dropWhile (· ≠ mark) = mark :: second := by
  have inside : ∀ c ∈ first, decide (c ≠ mark) = true := fun c member =>
    decide_eq_true fun same => markless (same ▸ member)
  rw [List.takeWhile_append_of_pos inside, List.takeWhile_cons_of_neg (by simp), List.append_nil,
    List.dropWhile_append_of_pos inside, List.dropWhile_cons_of_neg (by simp)]
  exact ⟨rfl, rfl⟩

theorem trim_of_bare {text : List Char} (first : ∀ c ∈ text.head?, isBlank c = false)
    (last : ∀ c ∈ text.getLast?, isBlank c = false) : trim text = text := by
  have back : ∀ c ∈ text.reverse.head?, isBlank c = false := by
    rw [List.head?_reverse]
    exact last
  rw [trim, dropEndWhile, dropWhile_of_head first, dropWhile_of_head back, List.reverse_reverse]

theorem trim_of_plain {text : List Char} (plain : ∀ c ∈ text, isBlank c = false) :
    trim text = text :=
  trim_of_bare (fun c first => plain c (List.mem_of_head? first))
    (fun c last => plain c (List.mem_of_getLast? last))

theorem dropEndWhile_stays {p : Char → Bool} {c : Char} (stays : p c = false) (front rest : List Char) :
    ∃ kept, dropEndWhile p (front ++ c :: rest) = front ++ c :: kept := by
  have reversed : (front ++ c :: rest).reverse = rest.reverse ++ c :: front.reverse := by simp
  have stops : (c :: front.reverse).dropWhile p = c :: front.reverse :=
    List.dropWhile_cons_of_neg (by simp [stays])
  rw [dropEndWhile, reversed, List.dropWhile_append, stops]
  split
  · exact ⟨[], by simp⟩
  · exact ⟨(rest.reverse.dropWhile p).reverse, by simp⟩

theorem getLast?_of_trim {text : List Char} (same : trim text = text) :
    ∀ c ∈ text.getLast?, isBlank c = false := by
  intro c last
  rw [← same, trim, dropEndWhile, List.getLast?_reverse] at last
  have left := List.head?_dropWhile_not isBlank (text.dropWhile isBlank).reverse
  rw [Option.mem_def.mp last] at left
  exact left

end PageLoad.Text

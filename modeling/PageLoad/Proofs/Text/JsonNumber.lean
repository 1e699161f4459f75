import PageLoad.Proofs.Number.Shortest
import PageLoad.Proofs.Text.Json

/-!
Numbers are written as JSON has them: whole numbers, and the shortest decimals of others.
-/

namespace PageLoad.Text.Json
open Number Double

theorem isNumberChar_of_isDigit {c : Char} (digit : c.isDigit = true) : isNumberChar c = true := by
  rw [isNumberChar, digit, Bool.true_or]

structure IsWhole (text : List Char) : Prop where
  digits : ∀ c ∈ text, c.isDigit = true
  first : text = ['0'] ∨ ∃ c ∈ text.head?, c ≠ '0'

/-- What may stand behind some digits of a number, if it can be told from them. -/
structure IsTail (reads : List Char → Bool) (text : List Char) : Prop where
  first : ∀ c ∈ text.head?, c.isDigit = false
  isRead : reads text = true
  chars : ∀ c ∈ text, isNumberChar c = true

theorem isWhole_zero : IsWhole ['0'] := ⟨forall_mem_of_all (by decide), .inl rfl⟩

theorem isWhole_of_head? {n : Nat} (positive : 0 < n) {text : List Char}
    (digits : ∀ c ∈ text, c.isDigit = true) (same : text.head? = (toString n).toList.head?) :
    IsWhole text := by
  obtain ⟨c, found⟩ := Option.isSome_iff_exists.mp (List.isSome_head?.mpr (toString_ne_nil n))
  refine ⟨digits, .inr ⟨c, same.trans found, ?_⟩⟩
  rintro rfl
  exact head_toString positive found

theorem isWhole_toString (n : Nat) : IsWhole (toString n).toList := by
  rcases Nat.eq_zero_or_pos n with rfl | positive
  · exact isWhole_zero
  · exact isWhole_of_head? positive (fun _ => isDigit_of_mem) rfl

theorem isTail_nil : IsTail isExponent [] := ⟨nofun, rfl, nofun⟩

theorem IsTail.isFraction {text : List Char} (tail : IsTail isExponent text) : IsTail isFraction text := by
  refine ⟨tail.first, ?_, tail.chars⟩
  unfold Json.isFraction
  split
  next => exact absurd tail.isRead (by simp [isExponent])
  next => exact tail.isRead

theorem isTail_point {digits text : List Char} (more : digits ≠ []) (plain : ∀ c ∈ digits, c.isDigit = true)
    (tail : IsTail isExponent text) : IsTail isFraction ('.' :: (digits ++ text)) := by
  have taken : (digits ++ text).takeWhile Char.isDigit = digits := by
    rw [List.takeWhile_append_of_pos plain, takeWhile_of_head tail.first, List.append_nil]
  have dropped : (digits ++ text).dropWhile Char.isDigit = text := by
    rw [List.dropWhile_append_of_pos plain, dropWhile_of_head tail.first]
  refine ⟨by rintro _ ⟨⟩; rfl, ?_, ?_⟩
  · simp only [isFraction, taken, dropped, tail.isRead, more, ne_eq, not_false_eq_true, decide_true,
      Bool.and_self]
  · intro c member
    rcases List.mem_cons.mp member with rfl | member
    · rfl
    · rcases List.mem_append.mp member with inside | behind
      · exact isNumberChar_of_isDigit (plain c inside)
      · exact tail.chars c behind

theorem isTail_exponentText (exponent : Int) :
    IsTail isExponent (Decimal.exponentText exponent).toList := by
  -- The digits follow one sign, whether it is written for the number or by it.
  have signed (sign : Char) (isSign : sign = '+' ∨ sign = '-') (n : Nat) :
      IsTail isExponent ('e' :: sign :: (toString n).toList) := by
    have digits : (toString n).toList.all Char.isDigit = true :=
      List.all_eq_true.mpr fun _ member => isDigit_of_mem member
    have more : decide ((toString n).toList ≠ []) = true := decide_eq_true (toString_ne_nil n)
    refine ⟨by rintro _ ⟨⟩; rfl, ?_, ?_⟩
    · rcases isSign with rfl | rfl <;>
        simp only [isExponent, more, digits, decide_true, Bool.true_or, Bool.and_self]
    · intro c member
      rcases List.mem_cons.mp member with rfl | member
      · rfl
      · rcases List.mem_cons.mp member with rfl | member
        · rcases isSign with rfl | rfl <;> rfl
        · exact isNumberChar_of_isDigit (isDigit_of_mem member)
  cases exponent with
  | ofNat n =>
    have text : (Decimal.exponentText (Int.ofNat n)).toList = 'e' :: '+' :: (toString n).toList := by
      rw [Decimal.exponentText, if_pos (show 0 ≤ Int.ofNat n from Int.natCast_nonneg n), String.toList_append]
      rfl
    rw [text]
    exact signed '+' (.inl rfl) n
  | negSucc n =>
    have text : (Decimal.exponentText (Int.negSucc n)).toList = 'e' :: '-' :: (toString (n + 1)).toList := by
      have number : toString (Int.negSucc n) = "-" ++ toString (n + 1) := rfl
      rw [Decimal.exponentText, if_neg (Int.negSucc_not_nonneg n).mp, number, String.toList_append,
        String.toList_append]
      rfl
    rw [text]
    exact signed '-' (.inr rfl) (n + 1)

theorem isProper_number (negative : Bool) {literal : String} {whole tail : List Char}
    (isWhole : IsWhole whole) (isTail : IsTail isFraction tail)
    (text : literal.toList = (signText negative).toList ++ (whole ++ tail)) :
    (Value.number literal).IsProper := by
  have taken : (whole ++ tail).takeWhile Char.isDigit = whole := by
    rw [List.takeWhile_append_of_pos isWhole.digits, takeWhile_of_head isTail.first, List.append_nil]
  have dropped : (whole ++ tail).dropWhile Char.isDigit = tail := by
    rw [List.dropWhile_append_of_pos isWhole.digits, dropWhile_of_head isTail.first]
  have front : (decide (whole = ['0']) || whole.head?.any (· ≠ '0')) = true := by
    rcases isWhole.first with rfl | ⟨c, found, other⟩
    · rfl
    · rw [Option.mem_def.mp found, Option.any_some, decide_eq_true other, Bool.or_true]
  have chars : ∀ c ∈ whole ++ tail, isNumberChar c = true := fun c member =>
    (List.mem_append.mp member).elim (fun inside => isNumberChar_of_isDigit (isWhole.digits c inside))
      (isTail.chars c)
  refine ⟨?_, ?_⟩
  · cases negative with
    | true =>
      rw [text, show (signText true).toList = ['-'] from rfl]
      simp only [isNumber, List.cons_append, List.nil_append, taken, dropped, front, isTail.isRead, Bool.and_self]
    | false =>
      rw [text, show (signText false).toList = [] from rfl, List.nil_append]
      have bare : ∀ rest, whole ++ tail ≠ '-' :: rest := by
        intro rest same
        rw [same] at taken
        obtain rfl : [] = whole := taken
        exact absurd front (by decide)
      rw [isNumber.eq_def]
      split
      next same => exact absurd same (bare _)
      next => simp only [taken, dropped, front, isTail.isRead, Bool.and_self]
  · rw [List.all_eq_true, text]
    intro c member
    rcases List.mem_append.mp member with sign | inside
    · cases negative
      · cases sign
      · rw [List.mem_singleton.mp sign]
        rfl
    · exact chars c inside

theorem isProper_toString (n : Nat) : (Value.number (toString n)).IsProper :=
  isProper_number false (isWhole_toString n) isTail_nil.isFraction (List.append_nil _).symm

theorem isProper_withPoint (negative : Bool) {literal : String} {n position : Nat} (positive : 0 < n)
    (behind : 0 < position) (inside : position < (toString n).toList.length) {tail : List Char}
    (isTail : IsTail isExponent tail)
    (text : literal.toList =
      (signText negative).toList ++ ((withPoint (toString n).toList position).toList ++ tail)) :
    (Value.number literal).IsProper := by
  have first : ((toString n).toList.take position).head? = (toString n).toList.head? :=
    List.head?_take.trans (if_neg behind.ne')
  have more : (toString n).toList.drop position ≠ [] :=
    List.ne_nil_of_length_pos (by rw [List.length_drop]; omega)
  have whole : IsWhole ((toString n).toList.take position) :=
    isWhole_of_head? positive (fun _ member => isDigit_of_mem (List.mem_of_mem_take member)) first
  have fraction : IsTail isFraction ('.' :: ((toString n).toList.drop position ++ tail)) :=
    isTail_point more (fun _ member => isDigit_of_mem (List.mem_of_mem_drop member)) isTail
  refine isProper_number negative whole fraction (text.trans ?_)
  simp [withPoint, String.toList_append]

theorem isDigit_of_mem_zeros {count : Nat} {c : Char} (member : c ∈ (zeros count).toList) :
    c.isDigit = true := by
  rw [zeros, String.toList_ofList] at member
  rw [(List.mem_replicate.mp member).2]
  rfl

theorem isProper_whole (negative : Bool) {decimal : Decimal} (positive : 0 < decimal.digits)
    (whole : 0 ≤ decimal.exponent) :
    (Value.number (signText negative ++ (decimal.plain ++ ".0"))).IsProper := by
  have some := List.length_pos_iff.mpr (toString_ne_nil decimal.digits)
  have plain : decimal.plain = String.ofList (toString decimal.digits).toList ++ zeros decimal.exponent.toNat := by
    unfold Decimal.plain
    rw [if_neg (by omega), if_pos whole]
  have first : ((toString decimal.digits).toList ++ (zeros decimal.exponent.toNat).toList).head? =
      (toString decimal.digits).toList.head? := by
    rw [List.head?_append, List.head?_eq_some_head (toString_ne_nil _), Option.some_or]
  have digits : ∀ c ∈ (toString decimal.digits).toList ++ (zeros decimal.exponent.toNat).toList,
      c.isDigit = true := fun c member =>
    (List.mem_append.mp member).elim isDigit_of_mem isDigit_of_mem_zeros
  refine isProper_number negative (isWhole_of_head? positive digits first)
    (isTail_point (List.cons_ne_nil '0' []) isWhole_zero.digits isTail_nil) ?_
  rw [plain]
  simp

/-- Some digits of a decimal with a fraction stand behind the point, and all of them if it is small. -/
theorem isProper_plain (negative : Bool) {decimal : Decimal} (positive : 0 < decimal.digits)
    (fraction : decimal.exponent < 0) : (Value.number (signText negative ++ decimal.plain)).IsProper := by
  unfold Decimal.plain
  dsimp only
  split
  next small =>
    generalize zero : zeros (-(decimal.exponent + (toString decimal.digits).toList.length)).toNat = front
    have digits : ∀ c ∈ front.toList ++ (toString decimal.digits).toList, c.isDigit = true := by
      intro c member
      rcases List.mem_append.mp member with inside | behind
      · exact isDigit_of_mem_zeros (zero ▸ inside)
      · exact isDigit_of_mem behind
    have more : front.toList ++ (toString decimal.digits).toList ≠ [] :=
      List.append_ne_nil_of_right_ne_nil _ (toString_ne_nil _)
    refine isProper_number negative isWhole_zero (isTail_point more digits isTail_nil) ?_
    simp
  next large =>
    rw [if_neg (by omega)]
    have behind : 0 < (decimal.exponent + (toString decimal.digits).toList.length).toNat := by omega
    have inside : (decimal.exponent + (toString decimal.digits).toList.length).toNat <
        (toString decimal.digits).toList.length := by omega
    exact isProper_withPoint negative positive behind inside isTail_nil
      (by rw [String.toList_append, List.append_nil])

theorem isProper_data (negative : Bool) {decimal : Decimal} (positive : 0 < decimal.digits) :
    (Value.number (signText negative ++ decimal.data)).IsProper := by
  have some := List.length_pos_iff.mpr (toString_ne_nil decimal.digits)
  unfold Decimal.data
  dsimp only
  split
  next whole =>
    simp only [Bool.and_eq_true, decide_eq_true_eq] at whole
    exact isProper_whole negative positive whole.1
  next parted =>
    simp only [Bool.and_eq_true, decide_eq_true_eq] at parted
    split
    next near =>
      simp only [Bool.and_eq_true, decide_eq_true_eq] at near
      exact isProper_plain negative positive (by omega)
    next far =>
      have exponent := isTail_exponentText (decimal.exponent + (toString decimal.digits).toList.length - 1)
      split
      next single =>
        refine isProper_number negative (isWhole_toString decimal.digits) exponent.isFraction ?_
        simp only [String.toList_append, String.toList_ofList]
      next several =>
        exact isProper_withPoint negative positive Nat.one_pos (by omega) exponent
          (by simp only [String.toList_append])

theorem isProper_data? {number : Double} {literal : String} (data : number.data? = some literal) :
    (Value.number literal).IsProper := by
  unfold data? at data
  split at data
  next => cases data
  next => cases data
  next negative =>
    obtain rfl := Option.some.inj data
    exact isProper_number negative isWhole_zero
      (isTail_point (List.cons_ne_nil '0' []) isWhole_zero.digits isTail_nil)
      (by rw [String.toList_append]; rfl)
  next negative units other =>
    obtain rfl := Option.some.inj data
    exact isProper_data negative (Decimal.shortest_digits_pos .even (Nat.pos_of_ne_zero other))

end PageLoad.Text.Json

import PageLoad.Proofs.Http.Field
import PageLoad.Proofs.Number.Seconds
import PageLoad.Proofs.Text.Blank
import PageLoad.Server.Answer

/-!
What requests ask for. The order of a request is read if the request asks for a number of bytes, in one of
two ways, and is for as many; otherwise the request is at fault.
-/

namespace PageLoad.Server
open Http Number Text

def Carries (value : List UInt8) (kind : List Char → Prop) : Prop :=
  ∃ text, Spells value text ∧ kind (trim text)

/-- Whether a request asks for a number of bytes in its fields. There need not be a time. -/
structure AsksInFields (request : Request) (n : Nat) : Prop where
  length : ∃ value, firstValue? request.fields "x-length" = some value ∧
    Carries value fun text => IsCount (2 ^ 64) text n
  time : ∀ value, firstValue? request.fields "x-time" = some value →
    Carries value fun text => ∃ seconds, readDouble? text = some seconds ∧ seconds.IsSpan

structure AsksInQuery (request : Request) (n : Nat) : Prop where
  bare : firstValue? request.fields "x-length" = none
  sum : ∃ first second a b, request.target.query = some (String.ofList (first ++ '&' :: second)) ∧
    '&' ∉ first ∧ IsCount (2 ^ 64) first a ∧ IsCount (2 ^ 64) second b ∧ a + b = n ∧ n < 2 ^ 64

def Asks (request : Request) (n : Nat) : Prop := AsksInFields request n ∨ AsksInQuery request n

/-! How an order is read. -/

variable {α : Type} {read : List Char → Option α} {fields : List Field} {name : String}

theorem readField_ok_iff {answer : Option α} : readField read fields name = .ok answer ↔
    (firstValue? fields name = none ∧ answer = none) ∨
      ∃ value number, firstValue? fields name = some value ∧ answer = some number ∧
        Carries value fun text => read text = some number := by
  have known {value : List UInt8} {number : α} : (Carries value fun text => read text = some number) ↔
      ((valueText? value).bind fun text => read (trim text)) = some number := by
    simp only [Option.bind_eq_some_iff, valueText?_eq_some_iff, Carries]
  simp only [known]
  unfold readField
  split
  next absent => simp [absent, eq_comm]
  next value given =>
    simp only [given, reduceCtorEq, false_and, Option.some.injEq, false_or]
    split
    next number same => simp [same, eq_comm]
    next unread => simp [unread]

theorem readField_error {rejection : Rejection} (failed : readField read fields name = .error rejection) :
    rejection.status = ⟨400⟩ := by
  unfold readField at failed
  split at failed
  next => cases failed
  next =>
    split at failed
    next => cases failed
    next => cases failed; rfl

theorem readDelay_ok_iff {seconds : Double} : (∃ delay, readDelay seconds = .ok delay) ↔ seconds.IsSpan := by
  rw [← nanosecondsOf?_isSome_iff, readDelay]
  split
  next delay known => simp [known]
  next unknown => simp [unknown]

theorem readTime_ok_iff : (∃ seconds delay, readField readDouble? fields name = .ok seconds ∧
      readDelay (seconds.getD .zero) = .ok delay) ↔
    ∀ value, firstValue? fields name = some value →
      Carries value fun text => ∃ seconds, readDouble? text = some seconds ∧ seconds.IsSpan := by
  constructor
  · rintro ⟨seconds, delay, timeRead, delayRead⟩ value given
    rcases readField_ok_iff.mp timeRead with ⟨absent, -⟩ | ⟨value, seconds, given', rfl, text, spelled, isRead⟩
    · cases given.symm.trans absent
    · cases given.symm.trans given'
      exact ⟨text, spelled, seconds, isRead, readDelay_ok_iff.mp ⟨delay, delayRead⟩⟩
  · intro timed
    cases given : firstValue? fields name with
    | none =>
      have span : Double.zero.IsSpan := ⟨false, 0, rfl, nofun, Nat.mul_pos (by decide) unitsPerOne_pos⟩
      obtain ⟨delay, delayRead⟩ := readDelay_ok_iff.mpr span
      exact ⟨none, delay, readField_ok_iff.mpr (.inl ⟨given, rfl⟩), delayRead⟩
    | some value =>
      obtain ⟨text, spelled, seconds, isRead, span⟩ := timed value given
      obtain ⟨delay, delayRead⟩ := readDelay_ok_iff.mpr span
      exact ⟨some seconds, delay,
        readField_ok_iff.mpr (.inr ⟨value, seconds, given, rfl, text, spelled, isRead⟩), delayRead⟩

theorem readDelay_error {seconds : Double} {rejection : Rejection}
    (failed : readDelay seconds = .error rejection) : rejection.status = ⟨400⟩ := by
  unfold readDelay at failed
  split at failed
  next => cases failed
  next => cases failed; rfl

theorem readQuery_markless {query : String} (markless : '&' ∉ query.toList) :
    readQuery (some query) = .error (.badQuery query) := by
  have left : query.toList.dropWhile (· ≠ '&') = [] :=
    List.dropWhile_eq_nil_iff.mpr fun c member => decide_eq_true fun same => markless (same ▸ member)
  simp only [readQuery, left]

theorem readQuery_marked {first second : List Char} (markless : '&' ∉ first) {n : Nat} :
    readQuery (some (String.ofList (first ++ '&' :: second))) = .ok n ↔
      ∃ a b, IsCount (2 ^ 64) first a ∧ IsCount (2 ^ 64) second b ∧ a + b = n ∧ n < 2 ^ 64 := by
  have size : UInt64.size = 2 ^ 64 := rfl
  have ⟨taken, left⟩ := split_at_first markless second
  simp only [readQuery, String.toList_ofList, left, taken, size, ← readNat?_eq_some_iff]
  cases readNat? (2 ^ 64) first with
  | none => simp
  | some a =>
    cases readNat? (2 ^ 64) second with
    | none => simp
    | some b =>
      by_cases small : a + b < 2 ^ 64
      · simp only [small, if_true]
        constructor
        · rintro ⟨⟩
          exact ⟨a, b, rfl, rfl, rfl, small⟩
        · rintro ⟨_, _, ⟨⟩, ⟨⟩, rfl, _⟩
          rfl
      · simp only [small, if_false]
        refine iff_of_false nofun ?_
        rintro ⟨_, _, ⟨⟩, ⟨⟩, rfl, fits⟩
        exact small fits

theorem readQuery_ok_iff {query : Option String} {n : Nat} : readQuery query = .ok n ↔
    ∃ first second a b, query = some (String.ofList (first ++ '&' :: second)) ∧
      '&' ∉ first ∧ IsCount (2 ^ 64) first a ∧ IsCount (2 ^ 64) second b ∧ a + b = n ∧ n < 2 ^ 64 := by
  constructor
  · intro ok
    cases query with
    | none => cases ok
    | some query =>
      by_cases marked : '&' ∈ query.toList
      · obtain ⟨first, second, text, markless⟩ := List.eq_append_cons_of_mem marked
        rw [← String.ofList_toList (s := query), text] at ok ⊢
        obtain ⟨a, b, sum⟩ := (readQuery_marked markless).mp ok
        exact ⟨first, second, a, b, rfl, markless, sum⟩
      · cases (readQuery_markless marked).symm.trans ok
  · rintro ⟨first, second, a, b, rfl, markless, sum⟩
    exact (readQuery_marked markless).mpr ⟨a, b, sum⟩

theorem readQuery_error {query : Option String} {rejection : Rejection}
    (failed : readQuery query = .error rejection) : rejection.status = ⟨400⟩ := by
  unfold readQuery at failed
  split at failed
  next => cases failed; rfl
  next =>
    split at failed
    next => cases failed; rfl
    next =>
      dsimp only at failed
      split at failed
      next =>
        split at failed
        next => cases failed
        next => cases failed; rfl
      next => cases failed; rfl

theorem bind_ok_iff {ε β : Type} {first : Except ε α} {next : α → Except ε β} {result : β} :
    first >>= next = .ok result ↔ ∃ found, first = .ok found ∧ next found = .ok result := by
  cases first <;> simp [bind, Except.bind]

theorem bind_error_iff {ε β : Type} {first : Except ε α} {next : α → Except ε β} {error : ε} :
    first >>= next = .error error ↔
      first = .error error ∨ ∃ found, first = .ok found ∧ next found = .error error := by
  cases first <;> simp [bind, Except.bind]

theorem readOrder_ok_iff {request : Request} {n : Nat} :
    (∃ order, readOrder request = .ok order ∧ order.length = n) ↔ Asks request n := by
  constructor
  · rintro ⟨order, ok, rfl⟩
    obtain ⟨found, lengthRead, ok⟩ := bind_ok_iff.mp ok
    rcases readField_ok_iff.mp lengthRead with
      ⟨bare, rfl⟩ | ⟨value, length, given, rfl, text, spelled, isRead⟩
    · obtain ⟨length, queryRead, ⟨⟩⟩ := bind_ok_iff.mp ok
      exact .inr ⟨bare, readQuery_ok_iff.mp queryRead⟩
    · obtain ⟨seconds, timeRead, ok⟩ := bind_ok_iff.mp ok
      obtain ⟨delay, delayRead, ⟨⟩⟩ := bind_ok_iff.mp ok
      exact .inl ⟨⟨value, given, text, spelled, readNat?_eq_some_iff.mp isRead⟩,
        readTime_ok_iff.mp ⟨seconds, delay, timeRead, delayRead⟩⟩
  · rintro (⟨⟨value, given, text, spelled, count⟩, time⟩ | ⟨bare, sum⟩)
    · obtain ⟨seconds, delay, timeRead, delayRead⟩ := readTime_ok_iff.mpr time
      have lengthRead := readField_ok_iff.mpr
        (.inr ⟨value, n, given, rfl, text, spelled, readNat?_eq_some_iff.mpr count⟩)
      exact ⟨⟨n, delay⟩, bind_ok_iff.mpr ⟨some n, lengthRead,
        bind_ok_iff.mpr ⟨seconds, timeRead, bind_ok_iff.mpr ⟨delay, delayRead, rfl⟩⟩⟩, rfl⟩
    · exact ⟨⟨n, 0⟩, bind_ok_iff.mpr ⟨none, readField_ok_iff.mpr (.inl ⟨bare, rfl⟩),
        bind_ok_iff.mpr ⟨n, readQuery_ok_iff.mpr sum, rfl⟩⟩, rfl⟩

theorem readOrder_error {request : Request} {rejection : Rejection}
    (failed : readOrder request = .error rejection) : rejection.status = ⟨400⟩ := by
  rcases bind_error_iff.mp failed with failed | ⟨found, -, failed⟩
  · exact readField_error failed
  cases found with
  | none =>
    rcases bind_error_iff.mp failed with failed | ⟨length, -, ⟨⟩⟩
    exact readQuery_error failed
  | some length =>
    rcases bind_error_iff.mp failed with failed | ⟨seconds, -, failed⟩
    · exact readField_error failed
    rcases bind_error_iff.mp failed with failed | ⟨delay, -, ⟨⟩⟩
    exact readDelay_error failed

theorem Asks.unique {request : Request} {n m : Nat} (first : Asks request n) (second : Asks request m) : n = m := by
  obtain ⟨order, ok, rfl⟩ := readOrder_ok_iff.mpr first
  obtain ⟨other, ok', rfl⟩ := readOrder_ok_iff.mpr second
  cases ok.symm.trans ok'
  rfl

end PageLoad.Server

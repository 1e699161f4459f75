import PageLoad.Proofs.Server.Order

/-!
A request is answered with as many bytes as it asks for, if these are not too many. One that states its
order as a replay does is such a request.
-/

namespace PageLoad.Server
open Http Number Text

theorem sendBytes_cases (maxLength : Nat) (request : Request) :
    (∃ order, sendBytes maxLength request = .bytes order ∧ order.length ≤ maxLength ∧
      Asks request order.length) ∨
    ∃ rejection, sendBytes maxLength request = .rejected rejection ∧ rejection.status = ⟨400⟩ ∧
      ∀ n ≤ maxLength, ¬Asks request n := by
  unfold sendBytes
  split
  next rejection failed =>
    refine .inr ⟨rejection, rfl, readOrder_error failed, fun n _ asked => ?_⟩
    obtain ⟨order, ok, -⟩ := readOrder_ok_iff.mpr asked
    cases failed.symm.trans ok
  next order ok =>
    have asked : Asks request order.length := readOrder_ok_iff.mp ⟨order, ok, rfl⟩
    split
    next large =>
      refine .inr ⟨_, rfl, rfl, fun n small other => ?_⟩
      rw [asked.unique other] at large
      exact Nat.not_lt.mpr small large
    next small => exact .inl ⟨order, rfl, Nat.not_lt.mp small, asked⟩

theorem answer_length_le {maxLength : Nat} {request : Request} {order : Order}
    (sent : answer maxLength request = .bytes order) : order.length ≤ maxLength := by
  unfold answer at sent
  split at sent
  next =>
    obtain ⟨_, bytes, small, _⟩ | ⟨_, rejected, _⟩ := sendBytes_cases maxLength request
    · cases bytes.symm.trans sent
      exact small
    · cases rejected.symm.trans sent
  next =>
    split at sent
    next =>
      unfold drain at sent
      split at sent <;> cases sent
    next => cases sent

theorem carries_iff {text : String} (printable : ∀ c ∈ text.toList, IsPrintable c)
    (bare : ∀ c ∈ text.toList, isBlank c = false) {kind : List Char → Prop} :
    Carries text.toUTF8.toList kind ↔ kind text.toList := by
  have spelled := valueText?_eq_some_iff.mp (valueText?_printable printable)
  have same := trim_of_plain bare
  constructor
  · rintro ⟨other, spelled', known⟩
    rwa [spelled'.2, ← spelled.2, same] at known
  · exact fun known => ⟨text.toList, spelled, same.symm ▸ known⟩

theorem carries_toString {n : Nat} {kind : List Char → Prop} :
    Carries (toString n).toUTF8.toList kind ↔ kind (toString n).toList :=
  carries_iff (fun c member => isPrintable_of_isDotted (isDotted_toString n c member))
    fun c member => isBlank_of_isDotted (isDotted_toString n c member)

theorem carries_fixed {seconds : Double} {kind : List Char → Prop} :
    Carries seconds.fixed.toUTF8.toList kind ↔ kind seconds.fixed.toList :=
  carries_iff (isPrintable_fixed seconds) (isBlank_fixed seconds)

theorem asks_iff {request : Request} {length n : Nat} {seconds read : Double}
    (askedLength : firstValue? request.fields "x-length" = some (toString length).toUTF8.toList)
    (askedTime : firstValue? request.fields "x-time" = some seconds.fixed.toUTF8.toList)
    (fits : length < UInt64.size) (isRead : readDouble? seconds.fixed.toList = some read) :
    Asks request n ↔ n = length ∧ read.IsSpan := by
  have counted := readNat?_toString fits
  constructor
  · rintro (⟨⟨value, given, count⟩, timed⟩ | ⟨bare, -⟩)
    · cases askedLength.symm.trans given
      obtain ⟨other, isOther, span⟩ := carries_fixed.mp (timed _ askedTime)
      cases isRead.symm.trans isOther
      cases counted.symm.trans (readNat?_eq_some_iff.mpr (carries_toString.mp count))
      exact ⟨rfl, span⟩
    · cases askedLength.symm.trans bare
  · rintro ⟨rfl, span⟩
    refine .inl ⟨⟨_, askedLength, carries_toString.mpr (readNat?_eq_some_iff.mp counted)⟩, fun value given => ?_⟩
    cases askedTime.symm.trans given
    exact carries_fixed.mpr ⟨read, isRead, span⟩

theorem answer_bytes {maxLength length units : Nat} {request : Request} (method : request.method = "GET")
    (askedLength : firstValue? request.fields "x-length" = some (toString length).toUTF8.toList)
    (askedDelay : firstValue? request.fields "x-time" =
      some (Double.finite false units).fixed.toUTF8.toList)
    (fits : length < UInt64.size) (allowed : length ≤ maxLength) (small : units ≤ Double.allowance 62) :
    ∃ delay, answer maxLength request = .bytes ⟨length, delay⟩ := by
  obtain ⟨count, read, printed, _, isRead, bound⟩ := readDouble?_fixed (by decide) small
  have span : (Double.finite false read).IsSpan :=
    Double.isSpan_positive.mpr (bound.trans_lt (Nat.mul_lt_mul_of_pos_right (by decide) unitsPerOne_pos))
  have asked : Asks request length :=
    (asks_iff askedLength askedDelay fits (printed.symm ▸ isRead)).mpr ⟨rfl, span⟩
  rw [answer, if_pos method]
  obtain ⟨⟨_, delay⟩, sent, _, other⟩ | ⟨_, _, _, unasked⟩ := sendBytes_cases maxLength request
  · cases asked.unique other
    exact ⟨delay, sent⟩
  · exact (unasked length allowed asked).elim

end PageLoad.Server

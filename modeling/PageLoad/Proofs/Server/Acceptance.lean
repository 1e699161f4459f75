import PageLoad.Proofs.Server.Answer
import PageLoad.Proofs.Text.Json
import PageLoad.Server.Body

/-!
What a trace server accepts. A request for bytes gets them if it says how many, in one of two
ways, and they are not too many. Any other request for bytes is turned down, and none is a crash.
-/

namespace PageLoad.Server
open Http Number Text

/-- Whether a response carries a number of bytes, and announces as many. -/
structure Delivers (response : Response) (n : Nat) : Prop where
  status : response.status = ⟨200⟩
  announced : firstValue? response.fields "content-length" = some (toString n).toUTF8.toList
  carried : ∃ bytes, response.body = .whole bytes ∧ bytes.length = n

/-- Whether a response is a refusal whose body, read as JSON, repeats the status. -/
structure Refuses (response : Response) : Prop where
  status : response.status = ⟨400⟩
  repeated : ∃ text members, response.body = .whole (String.toUTF8 text).toList ∧
    Json.readObject? text.toList = some members ∧ members.lookup "status" = some (.number "400")

theorem Delivers.unique {response : Response} {n m : Nat} (first : Delivers response n)
    (second : Delivers response m) : n = m := by
  obtain ⟨bytes, same, rfl⟩ := first.carried
  obtain ⟨others, same', rfl⟩ := second.carried
  cases same.symm.trans same'
  rfl

theorem Refuses.not_delivers {response : Response} (refuses : Refuses response) (n : Nat) :
    ¬Delivers response n :=
  fun delivers => absurd (refuses.status.symm.trans delivers.status) (by decide)

theorem delivers_bytes (order : Order) {bytes : List UInt8} (full : bytes.length = order.length)
    (elapsed : Nat) : Delivers ((Answer.bytes order).response bytes elapsed) order.length := by
  have named : ("content-type".toLower = "content-length".toLower) = False := by decide +kernel
  refine ⟨rfl, ?_, bytes, rfl, full⟩
  simp only [Answer.response, Answer.fields, Answer.contentType?, Answer.length, firstValue?, List.map_cons,
    List.map_nil, List.find?_cons, named, decide_false, decide_true, Option.map_some]

theorem refuses_rejected {rejection : Rejection} (refused : rejection.status = ⟨400⟩) (elapsed : Nat) :
    Refuses ((Answer.rejected rejection).response rejection.json.toUTF8.toList elapsed) := by
  let members : List (String × Json.Value) := [("error", .text rejection.message), ("status", .number "400")]
  have written : rejection.json = Json.object (members.map fun each => (each.1, each.2.json)) := by
    rw [Rejection.json, refused]
    rfl
  have proper : ∀ each ∈ members, each.2.IsProper := by
    intro each listed
    rcases List.mem_cons.mp listed with rfl | last
    · trivial
    · cases List.mem_singleton.mp last
      exact ⟨rfl, rfl⟩
  exact ⟨refused, rejection.json, members, rfl, written ▸ Json.readObject?_object proper, rfl⟩

/-- A request for bytes is no crash. It is answered with the number of bytes that it asks for, or refused
if it asks for no number within the limit. -/
theorem respond?_get {maxLength : Nat} (limited : maxLength < 2 ^ 63) (source : Nat → UInt8)
    {request : Request} (method : request.method = "GET") :
    ∃ response, respond? source maxLength request = some response ∧
      ((∃ n ≤ maxLength, Asks request n ∧ Delivers response n) ∨
        (∀ n ≤ maxLength, ¬Asks request n) ∧ Refuses response) := by
  have isSent : answer maxLength request = sendBytes maxLength request := by rw [answer, if_pos method]
  obtain ⟨order, sent, small, asked⟩ | ⟨rejection, sent, refused, unasked⟩ := sendBytes_cases maxLength request
  · let bytes := (List.range order.length).map source
    have full : bytes.length = order.length := by rw [List.length_map, List.length_range]
    have drawn : randomBytes? source order.length = some bytes := if_pos (small.trans_lt limited)
    have responds : respond? source maxLength request =
        some ((Answer.bytes order).response bytes (Answer.bytes order).delay) := by
      simp only [respond?, isSent, sent, Answer.body?, drawn, Option.map_some]
    exact ⟨_, responds, .inl ⟨_, small, asked, delivers_bytes order full _⟩⟩
  · have responds : respond? source maxLength request = some ((Answer.rejected rejection).response
        rejection.json.toUTF8.toList (Answer.rejected rejection).delay) := by
      simp only [respond?, isSent, sent, Answer.body?, Option.map_some]
    exact ⟨_, responds, .inr ⟨unasked, refuses_rejected refused _⟩⟩

/-- No request for bytes is a crash. It gets exactly the number of bytes that it asks for, if that is
within the limit, and is refused otherwise. What is drawn at random is never past the limit. -/
theorem accepts_exactly {maxLength : Nat} (limited : maxLength < 2 ^ 63) (source : Nat → UInt8)
    {request : Request} (method : request.method = "GET") :
    ∃ response, respond? source maxLength request = some response ∧
      (∀ n, Delivers response n ↔ n ≤ maxLength ∧ Asks request n) ∧
      ((¬∃ n, n ≤ maxLength ∧ Asks request n) → Refuses response) ∧
      ∀ order, answer maxLength request = .bytes order → order.length ≤ maxLength := by
  obtain ⟨response, responds, ⟨n, small, asked, delivers⟩ | ⟨unasked, refuses⟩⟩ :=
    respond?_get limited source method
  · refine ⟨response, responds, fun m => ⟨fun delivers' => ?_, fun ⟨_, asked'⟩ => ?_⟩,
      fun unasked => (unasked ⟨n, small, asked⟩).elim, fun _ => answer_length_le⟩
    · rw [← delivers.unique delivers']
      exact ⟨small, asked⟩
    · rwa [← asked.unique asked']
  · exact ⟨response, responds, fun m => ⟨fun delivers => (refuses.not_delivers m delivers).elim,
      fun ⟨small, asked⟩ => (unasked m small asked).elim⟩, fun _ => refuses, fun _ => answer_length_le⟩

def paddedRequest : Request where
  method := "GET"
  target := ⟨some "1&2"⟩
  fields := [⟨"X-LENGTH", "\t+0042 ".toUTF8.toList⟩, ⟨"x-length", [0xFF]⟩, ⟨"X-Time", "-0".toUTF8.toList⟩]
  body := ⟨[], none⟩

theorem paddedRequest_asks : Asks paddedRequest 42 := by
  have names : "X-LENGTH".toLower = "x-length" ∧ "x-length".toLower = "x-length" ∧
      "X-Time".toLower = "x-time" ∧ "x-time".toLower = "x-time" := by decide +kernel
  have length : firstValue? paddedRequest.fields "x-length" = some "\t+0042 ".toUTF8.toList := by
    simp [firstValue?, paddedRequest, names]
  have time : firstValue? paddedRequest.fields "x-time" = some "-0".toUTF8.toList := by
    simp [firstValue?, paddedRequest, names]
  have lengthText : Spells "\t+0042 ".toUTF8.toList "\t+0042 ".toList :=
    valueText?_eq_some_iff.mp (by decide +kernel)
  have timeText : Spells "-0".toUTF8.toList "-0".toList := valueText?_eq_some_iff.mp (by decide +kernel)
  have count : IsCount (2 ^ 64) (trim "\t+0042 ".toList) 42 := readNat?_eq_some_iff.mp (by decide +kernel)
  have zero : readDouble? (trim "-0".toList) = some (.finite true 0) := by decide +kernel
  refine .inl ⟨⟨_, length, _, lengthText, count⟩, fun value given => ?_⟩
  cases time.symm.trans given
  exact ⟨_, timeText, _, zero, true, 0, rfl, fun _ => rfl, Nat.mul_pos (by decide) unitsPerOne_pos⟩

theorem accepts_exactly_padded : 42 < 2 ^ 63 ∧ 41 < 2 ^ 63 ∧ paddedRequest.method = "GET" ∧
    (∃ response, respond? (fun _ => 0) 42 paddedRequest = some response ∧ Delivers response 42) ∧
    ∃ response, respond? (fun _ => 0) 41 paddedRequest = some response ∧ Refuses response := by
  have limits : 42 < 2 ^ 63 ∧ 41 < 2 ^ 63 := by decide
  have method : paddedRequest.method = "GET" := rfl
  obtain ⟨response, responds, delivers, -⟩ := accepts_exactly limits.1 (fun _ => 0) method
  obtain ⟨refusal, refused, -, refuses, -⟩ := accepts_exactly limits.2 (fun _ => 0) method
  refine ⟨limits.1, limits.2, method, ⟨response, responds, (delivers 42).mpr ⟨le_rfl, paddedRequest_asks⟩⟩,
    refusal, refused, refuses ?_⟩
  rintro ⟨n, small, asked⟩
  rw [asked.unique paddedRequest_asks] at small
  exact absurd small (by decide)

end PageLoad.Server

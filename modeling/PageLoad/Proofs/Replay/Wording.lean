import PageLoad.Proofs.Number.Reprint
import PageLoad.Proofs.Replay.Repeated
import PageLoad.Proofs.Server.Acceptance

/-!
What a replay says in its requests. A delay is said as it was recorded, and a trace server understands every
request for an asset that could be read: it sends all bytes of the asset, unless these are too many or the
delay is too long.
-/

namespace PageLoad.Trace
open Number Server

theorem readLength_lt {field : List Char} {length : Nat} (read : readLength field = .ok length) :
    length < UInt64.size := by
  unfold readLength at read
  split at read
  next same =>
    cases read
    exact of_decide_eq_true (Option.filter_eq_some_iff.mp same).2
  next => cases read

theorem readDelay_isTime {field : List Char} {delay : Double} (read : readDelay field = .ok delay) :
    delay.IsTime := by
  unfold readDelay at read
  split at read
  next => cases read
  next known =>
    split at read
    next admitted =>
      cases read
      cases delay with
      | nan | infinite => cases admitted
      | finite negative units =>
        refine ⟨negative, units, rfl, fun below => ?_, isMagnitude_of_readDouble? known⟩
        simpa [Double.isFinite, Double.isBelowZero, below] using admitted
    next => cases read

theorem Asset.parse_ok {line : String} {asset : Asset} (parsed : Asset.parse line = .ok asset) :
    asset.length < UInt64.size ∧ asset.delay.IsTime := by
  unfold Asset.parse at parsed
  split at parsed
  next =>
    obtain ⟨length, lengthRead, parsed⟩ := bind_ok_iff.mp parsed
    obtain ⟨delay, delayRead, parsed⟩ := bind_ok_iff.mp parsed
    cases parsed
    exact ⟨readLength_lt lengthRead, readDelay_isTime delayRead⟩
  next => cases parsed

end PageLoad.Trace

namespace PageLoad.Replay
open Fetch Http Number Server Trace Crawl

variable {client : Client} {maxLength : Nat} {asset : Asset}

/-- The request for an asset asks for all its bytes, or for nothing if the asset came too late. -/
theorem ordered_asks_iff (fits : asset.length < UInt64.size) (time : asset.delay.IsTime) (client : Client)
    (target : Target) {n : Nat} :
    Asks (client.ordered target asset) n ↔ n = asset.length ∧ asset.delay.IsSpan := by
  obtain ⟨read, isRead, -, -, span⟩ := readDouble?_fixed_of_isTime time
  have ⟨length, delay⟩ := ordered_states client target asset
  rw [asks_iff length delay fits isRead, span]

theorem send_iff_asks {request : Request} {network : Network}
    (made : client.agent.request (Client.fields asset) client.endpoint = .ok request)
    (method : request.method = "GET") (served : Serves maxLength network) :
    client.send network asset = .ok () ↔ ∃ n ≤ maxLength, Asks request n := by
  obtain ⟨body, elapsed, isBody, reply⟩ := served client.endpoint request
  have isSent : answer maxLength request = sendBytes maxLength request := by rw [answer, if_pos method]
  obtain ⟨order, sent, small, asked⟩ | ⟨rejection, sent, refused, unasked⟩ := sendBytes_cases maxLength request
  · rw [isSent, sent] at reply
    rw [send_ok_iff made reply rfl rfl]
    exact iff_of_true rfl ⟨_, small, asked⟩
  · rw [isSent, sent] at reply
    have status : ((Answer.rejected rejection).response body elapsed).status = ⟨400⟩ := refused
    rw [send_ok_iff made reply (by rw [status]; rfl) rfl, status]
    refine iff_of_false (by decide) ?_
    rintro ⟨n, small, asked⟩
    exact unasked n small asked

/-- A trace server understands the request for any asset that has been read. All bytes of the asset are sent
and arrive, exactly if they are within the limit and the delay is a length of time. -/
theorem understood_iff {line : String} (parsed : Asset.parse line = .ok asset)
    (legal : isValue asset.url.toUTF8.toList = true) (limited : maxLength < 2 ^ 63) (usable : client.IsUsable)
    (source : Nat → UInt8) :
    ∃ request response, client.agent.request (Client.fields asset) client.endpoint = .ok request ∧
      respond? source maxLength request = some response ∧
      (Delivers response asset.length ↔ asset.length ≤ maxLength ∧ asset.delay.IsSpan) ∧
      ∀ network, Serves maxLength network →
        (client.send network asset = .ok () ↔ asset.length ≤ maxLength ∧ asset.delay.IsSpan) := by
  obtain ⟨target, made⟩ := request_of_usable usable legal
  have ⟨fits, time⟩ := Asset.parse_ok parsed
  have asks (n : Nat) := ordered_asks_iff (n := n) fits time client target
  have method : (client.ordered target asset).method = "GET" := rfl
  have within : (∃ n ≤ maxLength, Asks (client.ordered target asset) n) ↔
      asset.length ≤ maxLength ∧ asset.delay.IsSpan := by
    simp only [asks]
    constructor
    · rintro ⟨_, small, rfl, span⟩
      exact ⟨small, span⟩
    · exact fun ⟨small, span⟩ => ⟨_, small, rfl, span⟩
  obtain ⟨response, responds, ⟨n, small, asked, delivers⟩ | ⟨unasked, refuses⟩⟩ := respond?_get limited source method
  · refine ⟨_, response, made, responds, ?_, fun network served => (send_iff_asks made method served).trans within⟩
    obtain ⟨rfl, span⟩ := (asks n).mp asked
    exact iff_of_true delivers ⟨small, span⟩
  · refine ⟨_, response, made, responds, ?_, fun network served => (send_iff_asks made method served).trans within⟩
    refine iff_of_false (refuses.not_delivers _) fun both => ?_
    obtain ⟨n, small, asked⟩ := within.mpr both
    exact unasked n small asked

/-- A line whose numbers are as large as a server takes them. A sign stands in front of one and white space
around the other, which is the last number below 2⁶⁴. -/
def largestLine : String := "0,0,0,text/html,+9223372036854775807, 1.8446744073709549568e19\t,http://a/"

def largestAsset : Asset :=
  ⟨"0", "0", 2 ^ 63 - 1, .finite false ((2 ^ 64 - 2 ^ 11) * unitsPerOne), "http://a/"⟩

theorem understood_iff_largest : Asset.parse largestLine = .ok largestAsset ∧
    isValue largestAsset.url.toUTF8.toList = true ∧ 2 ^ 63 - 1 < 2 ^ 63 ∧ pictureClient.IsUsable ∧
    ∃ request response, pictureClient.agent.request (Client.fields largestAsset) pictureClient.endpoint =
        .ok request ∧
      respond? (fun _ => 0) (2 ^ 63 - 1) request = some response ∧ Delivers response (2 ^ 63 - 1) ∧
      pictureClient.send (zerosNetwork (2 ^ 63 - 1)) largestAsset = .ok () := by
  have parsed : Asset.parse largestLine = .ok largestAsset := by decide +kernel
  have legal : isValue largestAsset.url.toUTF8.toList = true := by decide +kernel
  have limited : 2 ^ 63 - 1 < 2 ^ 63 := by decide
  have span : largestAsset.delay.IsSpan :=
    Double.isSpan_positive.mpr (Nat.mul_lt_mul_of_pos_right (by decide) unitsPerOne_pos)
  have fits : largestAsset.length ≤ 2 ^ 63 - 1 := Nat.le_refl _
  obtain ⟨request, response, made, responds, delivers, arrives⟩ :=
    understood_iff parsed legal limited pictureClient_usable fun _ => 0
  exact ⟨parsed, legal, limited, pictureClient_usable, request, response, made, responds,
    delivers.mpr ⟨fits, span⟩, (arrives _ (zerosNetwork_serves _)).mpr ⟨fits, span⟩⟩

/-- A delay is said as it was recorded, digit for digit, and recording it again prints the same line. -/
theorem time_survives {report : TaskReport} (separable : Separable report) (counted : report.bytes < UInt64.size)
    (time : report.elapsed.IsTime) :
    ∃ asset, Asset.parse report.csv = .ok asset ∧
      firstValue? (Client.fields asset) "X-Time" = some report.elapsed.fixed.toUTF8.toList ∧
      TaskReport.csv { report with elapsed := asset.delay } = report.csv := by
  obtain ⟨read, isRead, isTime, same, -⟩ := readDouble?_fixed_of_isTime time
  refine ⟨_, separable.parse_csv counted isRead isTime.admitted, ?_, ?_⟩
  · have names : ("X-URL".toLower = "X-Time".toLower) = False := by decide +kernel
    simp [firstValue?, Client.fields, names, same]
  · simp only [TaskReport.csv, same]

def longTask : TaskReport :=
  ⟨"0.1", "0", 1, "text/html", 5, .finite false ((2 ^ 52 + 1) * 2 ^ 1068), "http://a/?b,c"⟩

theorem time_survives_long : Separable longTask ∧ longTask.bytes < UInt64.size ∧ longTask.elapsed.IsTime ∧
    longTask.elapsed.fixed = "70368744177664.02" ∧
    ∃ asset, Asset.parse longTask.csv = .ok asset ∧
      firstValue? (Client.fields asset) "X-Time" = some "70368744177664.02".toUTF8.toList := by
  have separable : Separable longTask := ⟨by decide, by decide, by decide⟩
  have time : longTask.elapsed.IsTime :=
    ⟨false, _, rfl, nofun, Double.isMagnitude_mul (by decide) (by decide +kernel)⟩
  have printed : longTask.elapsed.fixed = "70368744177664.02" := by decide +kernel
  obtain ⟨asset, parsed, said, -⟩ := time_survives separable (by decide) time
  exact ⟨separable, by decide, time, printed, asset, parsed, printed ▸ said⟩

end PageLoad.Replay

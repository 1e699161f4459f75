import PageLoad.Proofs.Server.Answer
import PageLoad.Replay.Workers
import PageLoad.Server.Network

/-!
The requests of a replay and what a trace server answers: one for each asset, with all its bytes.
-/

namespace PageLoad.Http

theorem checkFields_append {fields more : List Field} (legal : checkFields fields = .ok ()) :
    checkFields (fields ++ more) = checkFields more := by
  induction fields with
  | nil => rfl
  | cons field rest ih =>
    rw [checkFields] at legal
    rw [List.cons_append, checkFields]
    split at legal
    · cases legal
    · rename_i token
      split at legal
      · cases legal
      · rename_i value
        rw [if_neg token, if_neg value, ih legal]

end PageLoad.Http

namespace PageLoad.Replay
open Fetch Http Number Server Text Trace

def Client.IsUsable (client : Client) : Prop :=
  ∃ request, client.agent.request [] client.endpoint = .ok request

/-- An asset whose URL can be sent, and whose delay and length can be read by a server. -/
structure IsAskable (maxLength : Nat) (asset : Asset) : Prop where
  url : ∀ c ∈ asset.url.toList, IsPrintable c
  delay : ∃ units, asset.delay = .finite false units ∧ units ≤ Double.allowance 62
  length : asset.length < UInt64.size ∧ asset.length ≤ maxLength

/-- A request for a URL and a length, which is answered with as many bytes. -/
structure IsFulfilled (client : Client) (network : Network) (url : String) (length : Nat)
    (sent : Url × Request) : Prop where
  place : sent.1 = client.endpoint
  method : sent.2.method = "GET"
  namesUrl : firstValue? sent.2.fields "X-URL" = some url.toUTF8.toList
  namesLength : firstValue? sent.2.fields "X-Length" = some (toString length).toUTF8.toList
  answered : ∃ response body, network sent.1 sent.2 = .response response ∧ response.status = ⟨200⟩ ∧
    response.body = .whole body ∧ body.length = length

variable {client : Client} {network : Network} {maxLength : Nat} {asset : Asset}

theorem fields_legal (legal : isValue asset.url.toUTF8.toList = true) :
    checkFields (Client.fields asset) = .ok () := by
  have time : isValue asset.delay.fixed.toUTF8.toList = true := isValue_printable (isPrintable_fixed _)
  have length : isValue (toString asset.length).toUTF8.toList = true :=
    isValue_printable fun c member => isPrintable_of_isDotted (isDotted_toString _ c member)
  have names : isToken "X-URL" = true ∧ isToken "X-Time" = true ∧ isToken "X-Length" = true := by decide
  simp only [Client.fields, checkFields, names, legal, time, length, Bool.not_true, Bool.false_eq_true,
    if_false]

def Client.ordered (client : Client) (target : Target) (asset : Asset) : Request where
  method := "GET"
  target := target
  fields := fields asset ++ [⟨"user-agent", client.agent.userAgent⟩]
  body := ⟨[], none⟩

theorem toLower_names : "X-URL".toLower = "x-url" ∧ "X-Time".toLower = "x-time" ∧
    "X-Length".toLower = "x-length" := by decide +kernel

theorem ordered_value (client : Client) (target : Target) (asset : Asset) {field : Field}
    (member : field ∈ Client.fields asset) {name : String} (same : name.toLower = field.name.toLower) :
    firstValue? (client.ordered target asset).fields name = some field.value := by
  simp only [Client.fields, List.mem_cons, List.not_mem_nil, or_false] at member
  obtain rfl | rfl | rfl := member <;>
  simp [firstValue?, Client.ordered, Client.fields, toLower_names, same]

theorem request_of_usable (usable : client.IsUsable) (legal : isValue asset.url.toUTF8.toList = true) :
    ∃ target, client.agent.request (Client.fields asset) client.endpoint =
      .ok (client.ordered target asset) := by
  obtain ⟨bare, made⟩ := usable
  have token : isToken "GET" = true ∧ isToken "user-agent" = true := by decide
  have checked : checkFields (Client.fields asset ++ [⟨"user-agent", client.agent.userAgent⟩]) = .ok () := by
    rw [checkFields_append (fields_legal legal)]
    simp only [checkFields, token, client.agent.isValue_userAgent, Bool.not_true, Bool.false_eq_true,
      if_false]
  rw [Fetch.Client.request] at made ⊢
  split at made
  · rename_i fetchable
    rw [if_pos fetchable]
    cases parsed : Target.parse (withoutCredentials client.endpoint).text with
    | error error => simp [Request.make, parsed, token, Except.mapError] at made
    | ok target =>
      refine ⟨target, ?_⟩
      simp only [Request.make, parsed, token, checked]
      rfl
  · cases made

theorem ordered_states (client : Client) (target : Target) (asset : Asset) :
    firstValue? (client.ordered target asset).fields "x-length" = some (toString asset.length).toUTF8.toList ∧
      firstValue? (client.ordered target asset).fields "x-time" = some asset.delay.fixed.toUTF8.toList := by
  have lower : "x-time".toLower = "x-time" ∧ "x-length".toLower = "x-length" := by decide +kernel
  have ⟨_, timeName, lengthName⟩ := toLower_names
  exact ⟨ordered_value client target asset (.tail _ (.tail _ (.head _))) (lower.2.trans lengthName.symm),
    ordered_value client target asset (.tail _ (.head _)) (lower.1.trans timeName.symm)⟩

theorem reply_bytes (served : Serves maxLength network) (askable : IsAskable maxLength asset)
    (target : Target) : ∃ response body,
      network client.endpoint (client.ordered target asset) = .response response ∧
      response.status = ⟨200⟩ ∧ response.body = .whole body ∧ body.length = asset.length := by
  obtain ⟨units, delay, small⟩ := askable.delay
  have ⟨length, time⟩ := ordered_states client target asset
  rw [delay] at time
  have method : (client.ordered target asset).method = "GET" := rfl
  obtain ⟨wait, answered⟩ :=
    answer_bytes method length time askable.length.1 askable.length.2 small
  obtain ⟨body, elapsed, whole, response⟩ := served client.endpoint (client.ordered target asset)
  rw [answered] at whole response
  exact ⟨_, body, response, rfl, rfl, whole⟩

theorem follow_response {agent : Fetch.Client} {fields : List Field} {url : Url} {request : Request}
    {response : Response} (made : agent.request fields url = .ok request)
    (reply : network url request = .response response) (settled : response.status.isRedirect = false)
    (redirects : Nat) :
    agent.follow network fields redirects url = .ok (url, response) ∧
      agent.requests network fields redirects url = [(url, request)] := by
  have last : nextUrl? url response = none := by simp [nextUrl?, settled]
  constructor
  · rw [Fetch.Client.follow]
    simp only [made, reply, last, bind, Except.bind]
  · rw [Fetch.Client.requests]
    cases redirects <;> simp [made, reply, last]

theorem send_ok_iff {request : Request} {response : Response} {body : List UInt8}
    (made : client.agent.request (Client.fields asset) client.endpoint = .ok request)
    (reply : network client.endpoint request = .response response)
    (settled : response.status.isRedirect = false) (whole : response.body = .whole body) :
    client.send network asset = .ok () ↔ response.status.isError = false := by
  have ⟨ended, _⟩ := follow_response made reply settled maxRedirects
  cases proper : response.status.isError with
  | false =>
    refine iff_of_true ?_ rfl
    simp only [Client.send, Fetch.Client.get, ended, proper, whole, readBody, bind, Except.bind, Except.mapError]
    rfl
  | true =>
    refine iff_of_false (fun sent => ?_) nofun
    simp only [Client.send, Fetch.Client.get, ended, proper, bind, Except.bind, Except.mapError] at sent
    cases sent

theorem send_served (usable : client.IsUsable) (served : Serves maxLength network)
    (askable : IsAskable maxLength asset) :
    client.send network asset = .ok () ∧ ∃ sent,
      client.agent.requests network (Client.fields asset) maxRedirects client.endpoint = [sent] ∧
      IsFulfilled client network asset.url asset.length sent := by
  obtain ⟨target, made⟩ := request_of_usable usable (isValue_printable askable.url)
  obtain ⟨response, body, reply, status, whole, length⟩ := reply_bytes served askable target
  have settled : response.status.isRedirect = false := by rw [status]; decide
  have ⟨_, sent⟩ := follow_response made reply settled maxRedirects
  have url := ordered_value client target asset (.head _) rfl
  have count := ordered_value client target asset (.tail _ (.tail _ (.head _))) rfl
  refine ⟨(send_ok_iff made reply settled whole).mpr ?_, _, sent, rfl, rfl, url, count, response, body, reply,
    status, whole, length⟩
  rw [status]
  rfl

end PageLoad.Replay

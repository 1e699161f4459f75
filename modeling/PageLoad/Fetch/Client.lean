import PageLoad.Fetch.Site
import PageLoad.Http.Network
import PageLoad.Url.Parse

/-!
Fetching from a network: one request for a URL, and as many more as the responses ask for by
sending the client on.
-/

namespace PageLoad.Fetch
open Http Text

structure Client where
  userAgent : List UInt8
  isValue_userAgent : isValue userAgent

def Client.make? (userAgent : String) : Option Client :=
  let value := userAgent.toUTF8.toList
  if legal : isValue value then some ⟨value, legal⟩ else none

def Client.unnamedMessage : String :=
  "builder error: failed to parse header value: failed to parse header value"

def defaultUserAgent : String :=
  "Mozilla/5.0 (X11; U; Linux i686) Gecko/20071127 Firefox/2.0.0.11"

def defaultTimeout : Nat := 30

def maxRedirects : Nat := 10

def withoutCredentials (url : Url) : Url :=
  { url with authority := url.authority.map ({ · with username := "", password := "" }) }

def isFetchable (url : Url) : Bool :=
  (url.scheme = "http" || url.scheme = "https") && url.hasHost

def nextUrl? (url : Url) (response : Response) : Option Url := do
  guard response.status.isRedirect
  let location ← firstValue? response.fields "location"
  let reference ← (Utf8.decode location).toOption
  (url.join (String.ofList reference)).toOption

def mentions (word : List Char) : List Char → Bool
  | [] => word = []
  | c :: rest => word.isPrefixOf (c :: rest) || mentions word rest

def unreachableCause (url : Url) : Cause :=
  if mentions "dns".toList (withoutCredentials url).text.toList then .dns else .connect

namespace Client

/-- The request for a URL, if there can be one. Fields that no answer depends on here are left out: that
anything is accepted, and the credentials of the URL. -/
def request (client : Client) (fields : List Field) (url : Url) : Except Cause Request :=
  if isFetchable url then
    (Request.make "GET" (withoutCredentials url).text
      (fields ++ [⟨"user-agent", client.userAgent⟩]) ⟨[], none⟩).mapError .badRequest
  else .error .badScheme

/-- Asks for a URL until a response does not send the client on, and says where that was. -/
def follow (client : Client) (network : Network) (fields : List Field) (redirects : Nat)
    (url : Url) : Except Cause (Url × Response) := do
  let request ← client.request fields url
  match network url request with
  | .unreachable => .error (unreachableCause url)
  | .silence => .error .timeout
  | .response response =>
    match nextUrl? url response with
    | none => .ok (url, response)
    | some next =>
      match redirects with
      | 0 => .error .redirects
      | redirects + 1 => client.follow network fields redirects next

def requests (client : Client) (network : Network) (fields : List Field) (redirects : Nat)
    (url : Url) : List (Url × Request) :=
  match client.request fields url with
  | .error _ => []
  | .ok request =>
    (url, request) ::
      match network url request with
      | .unreachable | .silence => []
      | .response response =>
        match nextUrl? url response, redirects with
        | none, _ | some _, 0 => []
        | some next, redirects + 1 => client.requests network fields redirects next

def get (client : Client) (network : Network) (fields : List Field) (url : Url) :
    Except Cause (Url × Response) :=
  client.follow network fields maxRedirects url

end Client

def readBody (body : Payload) : Except Cause (List UInt8) :=
  match body with
  | .whole bytes => .ok bytes
  | .brokenOff => .error .other
  | .stalled => .error .timeout

def Page.ofResponse (url : Url) (response : Response) (body : List UInt8) : Page where
  url := url
  contentType := contentTypeOf ((firstValue? response.fields "content-type").bind valueText?)
  body := body
  elapsed := response.elapsed

def Client.fetchPage (client : Client) (network : Network) (url : String) :
    Except Failure Page := do
  let target ← (Url.parse url).mapError fun error => .transport url (.badUrl error)
  let (final, response) ← (client.get network [] target).mapError (.transport url)
  if !response.status.isSuccess then .error (.status url response.status)
  else
    let body ← (readBody response.body).mapError (.body url)
    return .ofResponse final response body

def Client.fetch (client : Client) (network : Network) (url : String) : Outcome :=
  match client.fetchPage network url with
  | .ok page => .page page
  | .error failure => .failed failure

end PageLoad.Fetch

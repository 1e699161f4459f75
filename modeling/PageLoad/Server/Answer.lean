import PageLoad.Http.Request
import PageLoad.Http.Status
import PageLoad.Log
import PageLoad.Number.Duration
import PageLoad.Number.Reading
import PageLoad.Number.Shortest
import PageLoad.Text.Blank
import PageLoad.Text.Json
import PageLoad.Text.Utf8

/-!
The trace server: it answers with as many bytes as it is asked for, as late as it is asked to.
A request states both in two of its fields, or the number of bytes alone in its query, as the
sum of two numbers.
-/

namespace PageLoad.Server
open Http Number Text

inductive Rejection where
  | badHeader (name value : String)
  | badQuery (query : String)
  | missingLength
  | tooLarge (requested max : Nat)
  | body (reason : String)
  deriving DecidableEq, Repr

namespace Rejection

def message : Rejection → String
  | .badHeader name value => "invalid " ++ name ++ " header: " ++ quote value
  | .badQuery query =>
    "invalid length query " ++ quote query ++ ", expected <header_len>&<body_len>"
  | .missingLength => "no X-Length header and no length query"
  | .tooLarge requested max =>
    "requested " ++ toString requested ++ " bytes, limit is " ++ toString max
  | .body reason => "reading request body failed: " ++ reason

def status : Rejection → Status
  | .body _ => ⟨500⟩
  | _ => ⟨400⟩

def json (rejection : Rejection) : String :=
  Json.object
    [("error", Json.string rejection.message), ("status", toString rejection.status.code)]

end Rejection

structure Order where
  length : Nat
  delay : Nat
  deriving DecidableEq, Repr

/-- The number in the first field of a name. There need not be one, but a value that is no
number is turned down. -/
def readField {α : Type} (read : List Char → Option α) (fields : List Field) (name : String) :
    Except Rejection (Option α) :=
  match firstValue? fields name with
  | none => .ok none
  | some value =>
    match (valueText? value).bind fun text => read (trim text) with
    | some number => .ok (some number)
    | none => .error (.badHeader name (String.ofList (Utf8.replaceJunk value)))

def readDelay (seconds : Double) : Except Rejection Nat :=
  match nanosecondsOf? seconds with
  | some delay => .ok delay
  | none => .error (.badHeader "X-Time" seconds.plain)

def readQuery (query : Option String) : Except Rejection Nat :=
  match query with
  | none => .error .missingLength
  | some query =>
    match query.toList.dropWhile (· ≠ '&') with
    | [] => .error (.badQuery query)
    | _ :: second =>
      let first := query.toList.takeWhile (· ≠ '&')
      match readNat? UInt64.size first, readNat? UInt64.size second with
      | some head, some body =>
        if head + body < UInt64.size then .ok (head + body) else .error (.badQuery query)
      | _, _ => .error (.badQuery query)

/-- What a request asks for. The fields win over the query. -/
def readOrder (request : Request) : Except Rejection Order := do
  match ← readField (readNat? UInt64.size) request.fields "x-length" with
  | some length =>
    let seconds ← readField readDouble? request.fields "x-time"
    let delay ← readDelay (seconds.getD .zero)
    return ⟨length, delay⟩
  | none =>
    let length ← readQuery request.target.query
    return ⟨length, 0⟩

inductive Answer where
  | bytes (order : Order)
  | drained (count : Nat)
  | notAllowed
  | rejected (rejection : Rejection)
  deriving DecidableEq, Repr

def sendBytes (maxLength : Nat) (request : Request) : Answer :=
  match readOrder request with
  | .error rejection => .rejected rejection
  | .ok order =>
    if maxLength < order.length then .rejected (.tooLarge order.length maxLength)
    else .bytes order

def drain (body : Body) : Answer :=
  match body.fault with
  | some reason => .rejected (.body reason)
  | none => .drained (body.chunks.foldr (fun chunk size => chunk.length + size) 0)

def answer (maxLength : Nat) (request : Request) : Answer :=
  if request.method = "GET" then sendBytes maxLength request
  else if request.method = "POST" then drain request.body
  else .notAllowed

namespace Answer

def status : Answer → Status
  | .bytes _ | .drained _ => ⟨200⟩
  | .notAllowed => ⟨405⟩
  | .rejected rejection => rejection.status

def contentType? : Answer → Option String
  | .bytes _ | .drained _ => some "text/html"
  | .notAllowed => none
  | .rejected _ => some "application/json"

def length : Answer → Nat
  | .bytes order => order.length
  | .drained _ | .notAllowed => 0
  | .rejected rejection => rejection.json.utf8ByteSize

def fields (answer : Answer) : List (String × String) :=
  let length := ("content-length", toString answer.length)
  match answer.contentType? with
  | some contentType => [("content-type", contentType), length]
  | none => [length]

/-- The longest that a body is held back: thirty years. -/
def longestDelay : Nat := 30 * 365 * 24 * 60 * 60 * 1000000000

def delay : Answer → Nat
  | .bytes order => min order.delay longestDelay
  | _ => 0

def log : Answer → List LogEntry
  | .bytes order =>
    [⟨.info, "sleeping for " ++ (secondsOf order.delay).fixed ++ "s",
      [("length", .count order.length)]⟩]
  | .drained count => [⟨.info, "drained request body", [("bytes", .count count)]⟩]
  | .notAllowed => []
  | .rejected rejection => [⟨.warn, "rejecting request: " ++ rejection.message, []⟩]

end Answer

end PageLoad.Server

/-!
Absolute URLs and their text.

A URL either names a place under an authority or below a root, with a path of segments, or is
one whole text after its scheme, as in `mailto:a@b`. Credentials, port, query and fragment are
kept as they are written, percent-encoded.
-/

namespace PageLoad

inductive SchemeKind where
  | file
  | web
  | other
  deriving DecidableEq, Repr

inductive Host where
  | name (text : String)
  | ipv4 (address : Nat)
  | ipv6 (pieces : List Nat)
  deriving DecidableEq, Repr

structure Authority where
  username : String
  password : String
  host : Host
  port : Option Nat
  deriving DecidableEq, Repr

inductive UrlPath where
  | segments (list : List String)
  | whole (text : String)
  deriving DecidableEq, Repr

structure Url where
  scheme : String
  authority : Option Authority
  path : UrlPath
  query : Option String
  fragment : Option String
  deriving DecidableEq, Repr

namespace Url

inductive Error where
  | emptyHost
  | invalidName
  | invalidPort
  | invalidIpv4
  | invalidIpv6
  | invalidHostCharacter
  | relativeWithoutBase
  | relativeToWhole
  deriving DecidableEq, Repr

def Error.message : Error → String
  | .emptyHost => "empty host"
  | .invalidName => "invalid international domain name"
  | .invalidPort => "invalid port number"
  | .invalidIpv4 => "invalid IPv4 address"
  | .invalidIpv6 => "invalid IPv6 address"
  | .invalidHostCharacter => "invalid domain character"
  | .relativeWithoutBase => "relative URL without a base"
  | .relativeToWhole => "relative URL with a cannot-be-a-base base"

def defaultPort? (scheme : String) : Option Nat :=
  if scheme = "http" ∨ scheme = "ws" then some 80
  else if scheme = "https" ∨ scheme = "wss" then some 443
  else if scheme = "ftp" then some 21
  else none

def kindOf (scheme : String) : SchemeKind :=
  if scheme = "file" then .file
  else if (defaultPort? scheme).isSome then .web
  else .other

end Url

def SchemeKind.isSpecial : SchemeKind → Bool
  | .other => false
  | _ => true

def Host.ipv4Text (address : Nat) : String :=
  String.intercalate "."
    ([3, 2, 1, 0].map fun place => toString (address >>> (8 * place) % 256))

def leadingZeros : List Nat → Nat
  | 0 :: rest => leadingZeros rest + 1
  | _ => 0

/-- Where the longest run of zeros starts and how long it is; the first of equal runs. -/
def longestZeroRun (pieces : List Nat) : Nat × Nat :=
  (List.range pieces.length).foldl (fun best start =>
    let length := leadingZeros (pieces.drop start)
    if best.2 < length then (start, length) else best) (0, 0)

def Host.ipv6Text (pieces : List Nat) : String :=
  let join (part : List Nat) :=
    String.intercalate ":" (part.map fun n => String.ofList (Nat.toDigits 16 n))
  let (start, length) := longestZeroRun pieces
  if length < 2 then join pieces
  else join (pieces.take start) ++ "::" ++ join (pieces.drop (start + length))

def Host.text : Host → String
  | .name text => text
  | .ipv4 address => Host.ipv4Text address
  | .ipv6 pieces => "[" ++ Host.ipv6Text pieces ++ "]"

def Authority.text (authority : Authority) : String :=
  let password := if authority.password = "" then "" else ":" ++ authority.password
  let credentials := authority.username ++ password
  let port := match authority.port with
    | some number => ":" ++ toString number
    | none => ""
  (if credentials = "" then "" else credentials ++ "@") ++ authority.host.text ++ port

def UrlPath.text : UrlPath → String
  | .segments list => String.join (list.map ("/" ++ ·))
  | .whole text => text

namespace Url

/-- Without an authority, a path that opens with two slashes would read as one, so `/.` stands
before it. -/
def pathText (url : Url) : String :=
  match url.authority, url.path with
  | none, .segments ("" :: second :: rest) =>
    "/." ++ UrlPath.text (.segments ("" :: second :: rest))
  | _, path => path.text

def text (url : Url) : String :=
  let authority := match url.authority with
    | some authority => "//" ++ authority.text
    | none => ""
  let query := match url.query with
    | some query => "?" ++ query
    | none => ""
  let fragment := match url.fragment with
    | some fragment => "#" ++ fragment
    | none => ""
  url.scheme ++ ":" ++ authority ++ url.pathText ++ query ++ fragment

def kind (url : Url) : SchemeKind := kindOf url.scheme

def hasHost (url : Url) : Bool :=
  match url.authority with
  | some authority => authority.host ≠ .name ""
  | none => false

def segments (url : Url) : List String :=
  match url.path with
  | .segments list => list
  | .whole _ => []

end Url

end PageLoad

import PageLoad.Http.Target
import PageLoad.Url.Parse

/-!
The addresses of proxies. A scheme may be left out, which makes it a proxy for HTTP.
-/

namespace PageLoad.Replay
open Http

inductive ProxyError where
  | badUrl (error : Url.Error)
  | noHost
  | badAuthority (error : TargetError)
  | unknownScheme
  | unresolved
  deriving DecidableEq, Repr

def ProxyError.message : ProxyError → String
  | .badUrl error => "builder error: builder error: " ++ error.message
  | .noHost => "builder error: builder error: URL scheme is not allowed"
  | .badAuthority error => "builder error: " ++ error.message
  | .unknownScheme => "builder error: unknown proxy scheme"
  | .unresolved => "builder error: failed to lookup address information"

/-- Reads an address that has no scheme. The error is that of the address as it stands. -/
def readBareProxy (address : String) (error : ProxyError) : Except ProxyError Url :=
  match Url.parse ("http://" ++ address) with
  | .ok url => .ok url
  | .error _ => .error error

def readProxyUrl (address : String) : Except ProxyError Url :=
  match Url.parse address with
  | .ok url => if url.hasHost then .ok url else readBareProxy address .noHost
  | .error .relativeWithoutBase => readBareProxy address (.badUrl .relativeWithoutBase)
  | .error error => .error (.badUrl error)

def isResolved (host : Host) : Bool :=
  match host with
  | .name text =>
    text.toLower = "localhost" ||
      (text.toList.getLast? ≠ some '.' && (Url.ipv4? text.toList).isSome)
  | .ipv4 _ | .ipv6 _ => true

/-- Checks that a proxy can be used: one for HTTP has to have an address that can be sent, one
for sockets a host that is known. -/
def checkProxy (url : Url) (authority : Authority) : Except ProxyError Unit :=
  if url.scheme = "http" || url.scheme = "https" then
    let address := { authority with username := "", password := "" }
    match Target.readAuthority address.text.toList with
    | .ok _ => .ok ()
    | .error error => .error (.badAuthority error)
  else if url.scheme = "socks5" || url.scheme = "socks5h" then
    if isResolved authority.host then .ok () else .error .unresolved
  else .error .unknownScheme

def readProxy (address : String) : Except ProxyError Url := do
  let url ← readProxyUrl address
  match url.authority with
  | none => .error .noHost
  | some authority =>
    checkProxy url authority
    return url

end PageLoad.Replay

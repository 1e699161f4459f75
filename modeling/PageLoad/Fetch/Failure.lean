import PageLoad.Http.Request
import PageLoad.Http.Status
import PageLoad.Url.Basic

/-!
The ways in which fetching a URL fails.
-/

namespace PageLoad.Fetch

inductive Cause where
  | timeout
  | redirects
  | dns
  | connect
  | badUrl (error : Url.Error)
  | badScheme
  | badRequest (error : Http.RequestError)
  | other
  deriving DecidableEq, Repr

def Cause.label : Cause → String
  | .timeout => "timeout"
  | .redirects => "too_many_redirects"
  | .dns => "dns"
  | .connect => "connect"
  | .badUrl _ | .badScheme | .badRequest _ => "bad_url"
  | .other => "other"

def Cause.message : Cause → String
  | .timeout => "operation timed out"
  | .redirects => "too many redirects"
  | .dns => "dns error"
  | .connect => "connection failed"
  | .badUrl error => "builder error: " ++ error.message
  | .badScheme => "builder error: URL scheme is not allowed"
  | .badRequest error => "builder error: " ++ error.message
  | .other => "request error"

inductive Failure where
  | transport (url : String) (cause : Cause)
  | status (url : String) (status : Http.Status)
  | body (url : String) (cause : Cause)
  deriving DecidableEq, Repr

namespace Failure

def reason : Failure → String
  | .transport _ cause | .body _ cause => cause.label
  | .status _ answer => if answer.isClientError then "client_error" else "server_error"

def headline : Failure → String
  | .transport url _ => "request to " ++ url ++ " failed"
  | .status url answer => url ++ " answered HTTP " ++ answer.text
  | .body url _ => "reading body of " ++ url ++ " failed"

def message (failure : Failure) : String :=
  match failure with
  | .transport _ cause | .body _ cause => failure.headline ++ ": " ++ cause.message
  | .status _ _ => failure.headline

end Failure

inductive Crash where
  | text (message : String)
  | wordless
  deriving DecidableEq, Repr

def Crash.message : Crash → String
  | .text message => message
  | .wordless => "non-string panic payload"

end PageLoad.Fetch

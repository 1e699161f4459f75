import PageLoad.Replay.Proxy
import PageLoad.Replay.Settings
import PageLoad.Text.Quoted
import PageLoad.Trace.Asset

/-!
The client of a replay. Every asset is asked for at the same place; fields of the request tell
the server how many bytes to send and how long to wait.
-/

namespace PageLoad.Replay
open Fetch Http Text Trace

def endpoint (server : String) : Except Url.Error Url :=
  Url.parse ("http://" ++ server ++ "/index")

structure Client where
  agent : Fetch.Client
  endpoint : Url
  proxy : Option Url

inductive StartError where
  | badServer (server : String) (error : Url.Error)
  | badProxy (proxy : String) (error : ProxyError)
  | badUserAgent
  deriving DecidableEq, Repr

namespace StartError

def headline : StartError → String
  | .badServer server _ => "invalid trace server address " ++ quote server
  | .badProxy proxy _ => "invalid proxy address " ++ quote proxy
  | .badUserAgent => "building replay HTTP client"

def cause : StartError → String
  | .badServer _ error => error.message
  | .badProxy _ error => error.message
  | .badUserAgent => Fetch.Client.unnamedMessage

def message (error : StartError) : String := error.headline ++ ": " ++ error.cause

end StartError

namespace Client

def make (settings : Settings) : Except StartError Client := do
  let place ← (Replay.endpoint settings.server).mapError (.badServer settings.server)
  let proxy ← settings.proxy.mapM fun proxy => (readProxy proxy).mapError (.badProxy proxy)
  match Fetch.Client.make? settings.userAgent with
  | none => .error .badUserAgent
  | some agent => return ⟨agent, place, proxy⟩

def fields (asset : Asset) : List Field :=
  [⟨"X-URL", asset.url.toUTF8.toList⟩,
    ⟨"X-Time", asset.delay.fixed.toUTF8.toList⟩,
    ⟨"X-Length", (toString asset.length).toUTF8.toList⟩]

/-- Asks for an asset. An answer that is no error will do if its body arrives. -/
def send (client : Client) (network : Network) (asset : Asset) : Except Failure Unit := do
  let url := client.endpoint.text
  let (_, response) ←
    (client.agent.get network (fields asset) client.endpoint).mapError (.transport url)
  if response.status.isError then .error (.status url response.status)
  else
    let _ ← (readBody response.body).mapError (.body url)
    return ()

end Client

end PageLoad.Replay

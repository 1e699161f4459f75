import PageLoad.Fetch.Client

/-!
What can be chosen for a replay.
-/

namespace PageLoad.Replay

structure Settings where
  server : String
  workers : Nat
  timeout : Nat
  userAgent : String
  proxy : Option String
  deriving DecidableEq, Repr

def Settings.ofServer (server : String) : Settings :=
  ⟨server, 10, Fetch.defaultTimeout, Fetch.defaultUserAgent, none⟩

end PageLoad.Replay

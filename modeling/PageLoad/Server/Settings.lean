import PageLoad.Server.Address

/-!
What can be chosen for a trace server.
-/

namespace PageLoad.Server

structure Settings where
  host : Address
  port : Nat
  maxLength : Nat
  deriving DecidableEq, Repr

def Settings.default : Settings := ⟨.any, 8000, 64 * 1024 * 1024⟩

end PageLoad.Server

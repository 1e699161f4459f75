import PageLoad.Http.Request
import PageLoad.Http.Status
import PageLoad.Url.Basic

/-!
Networks as clients see them: every request for a URL gets a reply, if only that nobody is
there.
-/

namespace PageLoad.Http

inductive Payload where
  | whole (bytes : List UInt8)
  | brokenOff
  | stalled
  deriving DecidableEq, Repr

structure Response where
  status : Status
  fields : List Field
  body : Payload
  elapsed : Nat
  deriving DecidableEq, Repr

inductive Reply where
  | unreachable
  | silence
  | response (response : Response)
  deriving DecidableEq, Repr

abbrev Network := Url → Request → Reply

def Network.empty : Network := fun _ _ => .unreachable

end PageLoad.Http

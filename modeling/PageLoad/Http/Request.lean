import PageLoad.Http.Field
import PageLoad.Http.Target

/-!
Requests as they reach a server, and what may be wrong with their heads.
-/

namespace PageLoad.Http

/-- What comes of reading the body of a request: its pieces, and why there are no more if
that is not because it ended. -/
structure Body where
  chunks : List (List UInt8)
  fault : Option String
  deriving DecidableEq, Repr

structure Request where
  method : String
  target : Target
  fields : List Field
  body : Body
  deriving DecidableEq, Repr

inductive RequestError where
  | invalidMethod
  | invalidTarget (error : TargetError)
  | invalidName
  | invalidValue
  deriving DecidableEq, Repr

def RequestError.message : RequestError → String
  | .invalidMethod => "invalid HTTP method"
  | .invalidTarget error => error.message
  | .invalidName => "invalid HTTP header name"
  | .invalidValue => "failed to parse header value"

def checkFields : List Field → Except RequestError Unit
  | [] => .ok ()
  | field :: rest =>
    if !isToken field.name then .error .invalidName
    else if !isValue field.value then .error .invalidValue
    else checkFields rest

/-- The request with a given head and body. Of several faults the first counts. -/
def Request.make (method target : String) (fields : List Field) (body : Body) :
    Except RequestError Request := do
  if !isToken method then .error .invalidMethod
  else
    match Target.parse target with
    | .error error => .error (.invalidTarget error)
    | .ok target => do
      checkFields fields
      return ⟨method, target, fields, body⟩

end PageLoad.Http

import PageLoad.Http.Network
import PageLoad.Server.Answer

/-!
Networks in which every request reaches a trace server.
-/

namespace PageLoad.Server
open Http

/-- Whether some bytes are a body of an answer: any bytes will do, but as many as were ordered. -/
def Answer.IsBody (answer : Answer) (body : List UInt8) : Prop :=
  match answer with
  | .bytes order => body.length = order.length
  | .drained _ | .notAllowed => body = []
  | .rejected rejection => body = rejection.json.toUTF8.toList

def Answer.response (answer : Answer) (body : List UInt8) (elapsed : Nat) : Response where
  status := answer.status
  fields := answer.fields.map fun (name, value) => ⟨name, value.toUTF8.toList⟩
  body := .whole body
  elapsed := elapsed

def Serves (maxLength : Nat) (network : Network) : Prop :=
  ∀ url request, ∃ body elapsed, (answer maxLength request).IsBody body ∧
    network url request = .response ((answer maxLength request).response body elapsed)

end PageLoad.Server

import PageLoad.Server.Network

/-!
The bytes that an answer carries. Those that are ordered are drawn from a random source and held
all at once, which not every number of bytes can be.
-/

namespace PageLoad.Server
open Http

def capacity : Nat := 1 <<< 63

/-- As many bytes as are asked for. Asking for more than can be held is a crash. -/
def randomBytes? (source : Nat → UInt8) (length : Nat) : Option (List UInt8) :=
  if length < capacity then some ((List.range length).map source) else none

def capacityMessage : String := "capacity overflow"

def Answer.body? (source : Nat → UInt8) : Answer → Option (List UInt8)
  | .bytes order => randomBytes? source order.length
  | .drained _ | .notAllowed => some []
  | .rejected rejection => some rejection.json.toUTF8.toList

def respond? (source : Nat → UInt8) (maxLength : Nat) (request : Request) : Option Response :=
  let answer := answer maxLength request
  (answer.body? source).map fun body => answer.response body answer.delay

end PageLoad.Server

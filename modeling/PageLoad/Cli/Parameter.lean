import PageLoad.Number.Digits
import PageLoad.Server.Address

/-!
What may stand on a command line: options with a value, flags without one, and values that
are known by their place.
-/

namespace PageLoad.Cli
open Number

inductive Value where
  | present
  | text (value : String)
  | number (value : Nat)
  | address (value : Server.Address)
  deriving DecidableEq, Repr

abbrev Reader := String → Except String Value

structure Parameter where
  name : String
  label : String
  reader : Option Reader

def readText : Reader := fun value => .ok (.text value)

def readNumber : Reader := fun value =>
  match readNat UInt64.size value.toList with
  | .ok number => .ok (.number number)
  | .error error => .error error.message

/-- Reads a number of 16 bits. A number that is too large or too small is called by its
name. -/
def readPort : Reader := fun value =>
  match readInt (1 <<< 63) value.toList with
  | .error error => .error error.message
  | .ok number =>
    if 0 ≤ number && number ≤ 65535 then .ok (.number number.toNat)
    else .error (toString number ++ " is not in 0..=65535")

def readAddress : Reader := fun value =>
  match Server.Address.parse? value with
  | some address => .ok (.address address)
  | none => .error "invalid IP address syntax"

namespace Parameter

def logLevel : Parameter := ⟨"log-level", "--log-level <LOG_LEVEL>", some readText⟩

def workers : Parameter := ⟨"workers", "--workers <WORKERS>", some readNumber⟩

def timeout : Parameter := ⟨"timeout", "--timeout <TIMEOUT>", some readNumber⟩

def userAgent : Parameter := ⟨"user-agent", "--user-agent <USER_AGENT>", some readText⟩

def json : Parameter := ⟨"json", "--json", none⟩

def proxy : Parameter := ⟨"proxy", "--proxy <PROXY>", some readText⟩

def host : Parameter := ⟨"host", "--host <HOST>", some readAddress⟩

def maxLength : Parameter := ⟨"max-length", "--max-length <MAX_LENGTH>", some readNumber⟩

def server : Parameter := ⟨"", "<SERVER>", some readText⟩

def port : Parameter := ⟨"", "[PORT]", some readPort⟩

end Parameter

end PageLoad.Cli

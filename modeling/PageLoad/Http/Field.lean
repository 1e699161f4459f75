/-!
The parts of a request's head that are checked by their characters: tokens, as methods and the
names of fields are, and the values of fields, which are bytes.
-/

namespace PageLoad.Http

def isTokenChar (c : Char) : Bool :=
  c.isAlphanum || "!#$%&'*+-.^_\x60|~".toList.contains c

def isToken (text : String) : Bool := text ≠ "" && text.toList.all isTokenChar

def isValueByte (b : UInt8) : Bool := (32 ≤ b && b ≠ 127) || b = 9

def isValue (value : List UInt8) : Bool := value.all isValueByte

def valueText? (value : List UInt8) : Option (List Char) :=
  if value.all fun b => (32 ≤ b && b < 127) || b = 9 then
    some (value.map fun b => Char.ofNat b.toNat)
  else none

structure Field where
  name : String
  value : List UInt8
  deriving DecidableEq, Repr

/-- The first value under a name, in whatever case the name is written. -/
def firstValue? (fields : List Field) (name : String) : Option (List UInt8) :=
  (fields.find? (·.name.toLower = name.toLower)).map (·.value)

end PageLoad.Http

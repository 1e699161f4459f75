import PageLoad.Number.Digits
import PageLoad.Number.Double

/-!
Reading floating-point numbers from text, each as the nearest there is.
-/

namespace PageLoad.Number

def splitSign : List Char → Bool × List Char
  | '-' :: rest => (true, rest)
  | '+' :: rest => (false, rest)
  | text => (false, text)

def readExponent? : List Char → Option Int
  | [] => some 0
  | c :: rest =>
    if c = 'e' || c = 'E' then
      let (negative, digits) := splitSign rest
      (readDigits? digits).map fun value => if negative then -(value : Int) else value
    else none

/-- The number nearest to some digits times a power of ten. Powers far out of range are not
worked out. -/
def scaledDouble (negative : Bool) (digits : Nat) (exponent : Int) : Double :=
  let position := exponent + (toString digits).length
  if digits = 0 || position < -400 then .finite negative 0
  else if 400 < position then .infinite negative
  else
    Double.ofQuotient negative (digits * Nat.pow 10 exponent.toNat)
      (Nat.pow 10 (-exponent).toNat)

def readMagnitude? (negative : Bool) (text : List Char) : Option Double :=
  let whole := text.takeWhile Char.isDigit
  let afterWhole := text.dropWhile Char.isDigit
  let (fraction, rest) := match afterWhole with
    | '.' :: rest => (rest.takeWhile Char.isDigit, rest.dropWhile Char.isDigit)
    | rest => ([], rest)
  if whole = [] && fraction = [] then none
  else
    (readExponent? rest).map fun exponent =>
      scaledDouble negative (digitsValue (whole ++ fraction)) (exponent - fraction.length)

def readDouble? (text : List Char) : Option Double :=
  let (negative, body) := splitSign text
  let word := String.ofList (body.map Char.toLower)
  if word = "nan" then some .nan
  else if word = "inf" || word = "infinity" then some (.infinite negative)
  else readMagnitude? negative body

end PageLoad.Number

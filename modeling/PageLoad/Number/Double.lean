import PageLoad.Number.Rounding

/-!
Binary floating-point numbers of 64 bits. A finite one is counted in units of the smallest
positive one, so that all arithmetic is on natural numbers.
-/

namespace PageLoad.Number

def unitsPerOne : Nat := 1 <<< 1074

inductive Double where
  | nan
  | infinite (negative : Bool)
  | finite (negative : Bool) (units : Nat)
  deriving DecidableEq, Repr

namespace Double

/-- The distance between neighbours at a magnitude: numbers have 53 significant bits. -/
def spacing (units : Nat) : Nat := 1 <<< (units.log2 - 52)

def overflow : Nat := unitsPerOne <<< 1024

def ofQuotient (negative : Bool) (numerator denominator : Nat) : Double :=
  let scaled := numerator * unitsPerOne
  let step := spacing (scaled / denominator)
  let units := nearest scaled (denominator * step) * step
  if overflow ≤ units then .infinite negative else .finite negative units

def addMagnitudes (a b : Nat) : Double := ofQuotient false (a + b) unitsPerOne

def bits : Double → Nat
  | .nan => 0x7FF8000000000000
  | .infinite negative => (negative.toNat <<< 63) + 0x7FF0000000000000
  | .finite negative units =>
    let exponent := units.log2 - 52
    (negative.toNat <<< 63) + (exponent <<< 52) + (units >>> exponent)

def isFinite : Double → Bool
  | .finite _ _ => true
  | _ => false

def isBelowZero : Double → Bool
  | .nan => false
  | .infinite negative => negative
  | .finite negative units => negative && units ≠ 0

def zero : Double := .finite false 0

def signText (negative : Bool) : String := if negative then "-" else ""

def hundredths (units : Nat) : Nat := nearest (units * 100) unitsPerOne

def hundredthsText (count : Nat) : String :=
  let cents := count % 100
  toString (count / 100) ++ "." ++ (if cents < 10 then "0" else "") ++ toString cents

def fixed : Double → String
  | .nan => "NaN"
  | .infinite negative => signText negative ++ "inf"
  | .finite negative units => signText negative ++ hundredthsText (hundredths units)

end Double

end PageLoad.Number

import PageLoad.Number.Double

/-!
The shortest decimal that reads back as a given number, and the two ways it is written: with
all its places, and with an exponent where that is shorter.
-/

namespace PageLoad.Number

structure Decimal where
  digits : Nat
  exponent : Int
  deriving DecidableEq, Repr

def digitCount (n : Nat) : Nat := (toString n).length

namespace Decimal

def atMost (decimal : Decimal) (numerator denominator : Nat) : Bool :=
  decimal.digits * Nat.pow 10 decimal.exponent.toNat * denominator ≤
    numerator * Nat.pow 10 (-decimal.exponent).toNat

def atLeast (decimal : Decimal) (numerator denominator : Nat) : Bool :=
  numerator * Nat.pow 10 (-decimal.exponent).toNat ≤
    decimal.digits * Nat.pow 10 decimal.exponent.toNat * denominator

/-- Whether a decimal reads back as a magnitude: it is at most halfway to the neighbours, and
halfway only if the magnitude is even. Below a power of two the neighbour is nearer. -/
def readsBack (decimal : Decimal) (units : Nat) : Bool :=
  let step := Double.spacing units
  let below := if units = 1 <<< units.log2 && step ≠ 1 then step else 2 * step
  let low := 4 * units - below
  let high := 4 * units + 2 * step
  let denominator := 4 * unitsPerOne
  if units / step % 2 = 0 then
    decimal.atLeast low denominator && decimal.atMost high denominator
  else !decimal.atMost low denominator && !decimal.atLeast high denominator

def scale (units : Nat) : Int :=
  if unitsPerOne ≤ units then digitCount (units / unitsPerOne)
  else 1 - digitCount ((unitsPerOne - 1) / units)

def floor (units : Nat) (exponent : Int) : Decimal :=
  ⟨units * Nat.pow 10 (-exponent).toNat / (unitsPerOne * Nat.pow 10 exponent.toNat), exponent⟩

def next (decimal : Decimal) : Decimal := { decimal with digits := decimal.digits + 1 }

inductive Tie where
  | up
  | even
  deriving DecidableEq, Repr

def nearer (tie : Tie) (units : Nat) (below : Decimal) : Decimal :=
  let middle : Decimal := ⟨2 * below.digits + 1, below.exponent⟩
  let isBelow := middle.atMost (2 * units) unitsPerOne
  let isAbove := middle.atLeast (2 * units) unitsPerOne
  if isBelow && isAbove then
    if tie = .even && below.digits % 2 = 0 then below else below.next
  else if isBelow then below.next
  else below

def withDigits? (tie : Tie) (units count : Nat) : Option Decimal :=
  let below := floor units (scale units - count)
  match below.readsBack units, below.next.readsBack units with
  | true, true => some (below.nearer tie units)
  | true, false => some below
  | false, true => some below.next
  | false, false => none

def strip (fuel : Nat) (decimal : Decimal) : Decimal :=
  match fuel with
  | 0 => decimal
  | fuel + 1 =>
    if decimal.digits ≠ 0 && decimal.digits % 10 = 0 then
      strip fuel ⟨decimal.digits / 10, decimal.exponent + 1⟩
    else decimal

/-- The shortest decimal that reads back as a positive magnitude. Seventeen digits are always
enough; all digits of the magnitude stand in for a search that finds none. -/
def shortest (tie : Tie) (units : Nat) : Decimal :=
  let found := (List.range 17).findSome? fun count => withDigits? tie units (count + 1)
  let decimal := found.getD ⟨units * Nat.pow 5 1074, -1074⟩
  decimal.strip (digitCount decimal.digits)

end Decimal

def zeros (count : Nat) : String := String.ofList (List.replicate count '0')

def withPoint (digits : List Char) (position : Nat) : String :=
  String.ofList (digits.take position) ++ "." ++ String.ofList (digits.drop position)

namespace Decimal

def plain (decimal : Decimal) : String :=
  let digits := (toString decimal.digits).toList
  let position := decimal.exponent + digits.length
  if position ≤ 0 then "0." ++ zeros (-position).toNat ++ String.ofList digits
  else if 0 ≤ decimal.exponent then String.ofList digits ++ zeros decimal.exponent.toNat
  else withPoint digits position.toNat

def exponentText (exponent : Int) : String :=
  (if 0 ≤ exponent then "e+" else "e") ++ toString exponent

/-- A decimal as data: with a point between 10⁻⁵ and 10¹⁶, elsewhere with an exponent. -/
def data (decimal : Decimal) : String :=
  let digits := (toString decimal.digits).toList
  let position := decimal.exponent + digits.length
  if 0 ≤ decimal.exponent && position ≤ 16 then decimal.plain ++ ".0"
  else if -5 < position && position ≤ 16 then decimal.plain
  else
    let mantissa := if digits.length = 1 then String.ofList digits else withPoint digits 1
    mantissa ++ exponentText (position - 1)

end Decimal

namespace Double

def plain : Double → String
  | .nan => "NaN"
  | .infinite negative => signText negative ++ "inf"
  | .finite negative 0 => signText negative ++ "0"
  | .finite negative units => signText negative ++ (Decimal.shortest .up units).plain

def data? : Double → Option String
  | .nan | .infinite _ => none
  | .finite negative 0 => some (signText negative ++ "0.0")
  | .finite negative units => some (signText negative ++ (Decimal.shortest .even units).data)

end Double

end PageLoad.Number

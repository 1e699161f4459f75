/-!
Reading whole numbers from text. Only the ten digits of ASCII count.
-/

namespace PageLoad.Number

def digitsValue (digits : List Char) : Nat :=
  digits.foldl (fun value c => 10 * value + (c.toNat - '0'.toNat)) 0

def readDigits? (text : List Char) : Option Nat :=
  if text ≠ [] && text.all Char.isDigit then some (digitsValue text) else none

def dropPlus : List Char → List Char
  | '+' :: rest => rest
  | text => text

def readNat? (bound : Nat) (text : List Char) : Option Nat :=
  (readDigits? (dropPlus text)).filter (· < bound)

inductive DigitsError where
  | empty
  | invalid
  | tooLarge
  | tooSmall
  deriving DecidableEq, Repr

def DigitsError.message : DigitsError → String
  | .empty => "cannot parse integer from empty string"
  | .invalid => "invalid digit found in string"
  | .tooLarge => "number too large to fit in target type"
  | .tooSmall => "number too small to fit in target type"

/-- Reads digits that stand for a number below a bound. Reading stops where they become too
large a number. -/
def readBelow (bound : Nat) (digits : List Char) : Except DigitsError Nat :=
  if bound ≤ digitsValue (digits.takeWhile Char.isDigit) then .error .tooLarge
  else
    match readDigits? digits with
    | some value => .ok value
    | none => .error .invalid

def readNat (bound : Nat) (text : List Char) : Except DigitsError Nat :=
  if text = [] then .error .empty else readBelow bound (dropPlus text)

def readInt (bound : Nat) : List Char → Except DigitsError Int
  | [] => .error .empty
  | '-' :: digits =>
    match readBelow (bound + 1) digits with
    | .ok value => .ok (-(value : Int))
    | .error .tooLarge => .error .tooSmall
    | .error error => .error error
  | text => (readBelow bound (dropPlus text)).map Int.ofNat

end PageLoad.Number

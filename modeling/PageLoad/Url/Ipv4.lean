import PageLoad.Text.CodePoints

/-!
IPv4 addresses in hosts: up to four numbers, decimal, octal after `0` or hexadecimal after
`0x`, the last of which fills all the bytes that are left.
-/

namespace PageLoad.Url
open PageLoad.Text

def numberIn? (base : Nat) (digits : List Char) : Option Nat :=
  digits.foldlM (fun value c => match hexDigit? c with
    | some d => if d < base then some (base * value + d) else none
    | none => none) 0

/-- One part of an address. An empty text is no number, a bare `0x` is zero. -/
def ipv4Number? (part : List Char) : Option Nat :=
  match part with
  | [] => none
  | '0' :: 'x' :: digits | '0' :: 'X' :: digits => numberIn? 16 digits
  | '0' :: digit :: digits => numberIn? 8 (digit :: digits)
  | digits => numberIn? 10 digits

def ipv4Parts (host : List Char) : List (List Char) :=
  let parts := host.splitOn '.'
  if 1 < parts.length ∧ parts.getLast? = some [] then parts.dropLast else parts

/-- A host whose last part is a number has to be an address. -/
def endsInNumber (host : List Char) : Bool :=
  match (ipv4Parts host).getLast? with
  | some last => (last ≠ [] && last.all Char.isDigit) || (ipv4Number? last).isSome
  | none => false

def ipv4Value? (numbers : List Nat) : Option Nat :=
  match numbers.getLast? with
  | none => none
  | some last =>
    let leading := numbers.dropLast
    let bitsLeft := 8 * (4 - leading.length)
    if 4 < numbers.length ∨ leading.any (255 < ·) ∨ 1 <<< bitsLeft ≤ last then none
    else some ((leading.foldl (fun value n => 256 * value + n) 0) <<< bitsLeft + last)

def ipv4? (host : List Char) : Option Nat :=
  ((ipv4Parts host).mapM ipv4Number?).bind ipv4Value?

end PageLoad.Url

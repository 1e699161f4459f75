import PageLoad.Number.Digits
import PageLoad.Text.CodePoints

/-!
IPv6 addresses in hosts: eight hexadecimal pieces, one run of which may be left out as `::`,
and the last two of which may be written as an IPv4 address.
-/

namespace PageLoad.Url
open PageLoad.Text

/-- The pieces read so far. After `::` they go to the second list. -/
structure Ipv6Progress where
  before : List Nat
  after : Option (List Nat)

namespace Ipv6Progress

/-- How many of the eight places are taken; a run left out takes one at least. -/
def taken (progress : Ipv6Progress) : Nat :=
  match progress.after with
  | none => progress.before.length
  | some after => progress.before.length + 1 + after.length

def add (progress : Ipv6Progress) (pieces : List Nat) : Ipv6Progress :=
  match progress.after with
  | none => { progress with before := progress.before ++ pieces }
  | some after => { progress with after := some (after ++ pieces) }

def pieces? (progress : Ipv6Progress) : Option (List Nat) :=
  match progress.after with
  | none => if progress.before.length = 8 then some progress.before else none
  | some after =>
    some (progress.before ++ List.replicate (8 - progress.before.length - after.length) 0 ++ after)

end Ipv6Progress

def decimalByte? (digits : List Char) : Option Nat :=
  if digits = [] ∨ !digits.all Char.isDigit ∨ (digits.length ≠ 1 ∧ digits.head? = some '0') then
    none
  else
    let value := Number.digitsValue digits
    if value ≤ 255 then some value else none

def embeddedPieces? (text : List Char) : Option (List Nat) := do
  match ← (text.splitOn '.').mapM decimalByte? with
  | [a, b, c, d] => some [a * 256 + b, c * 256 + d]
  | _ => none

def readPieces? (text : List Char) (progress : Ipv6Progress) : Option Ipv6Progress :=
  match text with
  | [] => some progress
  | c :: rest =>
    if progress.taken = 8 then none
    else if c = ':' then
      if progress.after.isSome then none
      else readPieces? rest { progress with after := some [] }
    else
      let digits := ((c :: rest).take 4).takeWhile (fun d => (hexDigit? d).isSome)
      match _remaining : (c :: rest).drop digits.length with
      | [] => some (progress.add [hexNumber digits])
      | '.' :: _ =>
        if digits = [] ∨ 6 < progress.taken then none
        else (embeddedPieces? (c :: rest)).map progress.add
      | ':' :: next :: others =>
        readPieces? (next :: others) (progress.add [hexNumber digits])
      | _ => none
termination_by text.length
decreasing_by
  · simp
  · have shorter := congrArg List.length _remaining
    simp only [List.length_drop, List.length_cons] at shorter
    simp only [List.length_cons]
    omega

def ipv6? (text : List Char) : Option (List Nat) :=
  match text with
  | ':' :: ':' :: rest => (readPieces? rest ⟨[], some []⟩).bind Ipv6Progress.pieces?
  | ':' :: _ => none
  | _ :: _ :: _ => (readPieces? text ⟨[], none⟩).bind Ipv6Progress.pieces?
  | _ => none

end PageLoad.Url

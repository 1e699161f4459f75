import PageLoad.Domain.MappingTable
import PageLoad.Text.CodePoints

/-!
What each character of a domain name becomes before the name is split into labels.
-/

namespace PageLoad.Domain
open PageLoad.Text

/-- A run of replaced code points. With one target the run moves to it by one distance. -/
structure Replacement where
  first : Nat
  last : Nat
  step : Nat
  targets : List Nat

/-- Reads `first-last/step>target+target`; the end of the run and its step may be missing. -/
def Replacement.ofText (entry : List Char) : Replacement :=
  match entry.splitOn '>' with
  | [source, target] =>
    let range := source.takeWhile (· ≠ '/')
    let step := if source.contains '/' then 2 else 1
    let targets := (target.splitOn '+').map hexNumber
    match range.splitOn '-' with
    | [first, last] => ⟨hexNumber first, hexNumber last, step, targets⟩
    | _ => ⟨hexNumber range, hexNumber range, step, targets⟩
  | _ => ⟨0, 0, 1, []⟩

def refusedPoints : CodePoints := CodePoints.ofText refusedText

def ignoredPoints : CodePoints := CodePoints.ofText ignoredText

def replacements : Array Replacement :=
  ((words replacedText).map Replacement.ofText).toArray

def replacement? (code : Nat) : Option (List Char) := do
  let run ← lastStarting? Replacement.first replacements code
  if code ≤ run.last ∧ (code - run.first) % run.step = 0 then
    match run.targets with
    | [target] => some [Char.ofNat (target + (code - run.first))]
    | targets => some (targets.map Char.ofNat)
  else none

def mapChar? (c : Char) : Option (List Char) :=
  let code := c.toNat
  if refusedPoints.contains code then none
  else if ignoredPoints.contains code then some []
  else some ((replacement? code).getD [c])

def mapName? : List Char → Option (List Char)
  | [] => some []
  | c :: rest => do
    let mapped ← mapChar? c
    let others ← mapName? rest
    some (mapped ++ others)

end PageLoad.Domain

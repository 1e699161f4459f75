import PageLoad.Domain.CompositionTable
import PageLoad.Text.CodePoints

/-!
Canonical composition (normalization form C) of mapped names: characters are taken apart, marks
after each base are ordered by combining class, and pairs are put together again.

Only characters that compose again are taken apart here. The others that Unicode decomposes
have already been replaced by the mapping.
-/

namespace PageLoad.Domain
open PageLoad.Text

structure Composition where
  composed : Nat
  first : Nat
  second : Nat

def Composition.ofText (entry : List Char) : Composition :=
  match entry.splitOn '=' with
  | [composed, pair] =>
    match pair.splitOn '+' with
    | [first, second] => ⟨hexNumber composed, hexNumber first, hexNumber second⟩
    | _ => ⟨0, 0, 0⟩
  | _ => ⟨0, 0, 0⟩

def compositions : Array Composition :=
  ((words compositionText).map Composition.ofText).toArray

def Composition.pairKey (entry : Composition) : Nat :=
  entry.first * 0x110000 + entry.second

def compositionsByPair : Array Composition :=
  (compositions.toList.mergeSort fun a b => a.pairKey ≤ b.pairKey).toArray

def combiningClasses : List (Nat × CodePoints) :=
  combiningClassText.map fun (value, text) => (value, CodePoints.ofText text)

def combiningClass (c : Char) : Nat :=
  match combiningClasses.find? (fun entry => entry.2.contains c.toNat) with
  | some (value, _) => value
  | none => 0

def markPoints : CodePoints := CodePoints.ofText markText

def isMark (c : Char) : Bool := markPoints.contains c.toNat

/-- Takes a character apart, with `fuel` bounding the depth of nesting (Unicode has at most
four levels). -/
def decomposeChar (fuel : Nat) (code : Nat) : List Nat :=
  match fuel with
  | 0 => [code]
  | fuel + 1 =>
    if 0xAC00 ≤ code ∧ code ≤ 0xD7A3 then
      let index := code - 0xAC00
      let leading := 0x1100 + index / 588
      let vowel := 0x1161 + index % 588 / 28
      if index % 28 = 0 then [leading, vowel] else [leading, vowel, 0x11A7 + index % 28]
    else
      match lastStarting? Composition.composed compositions code with
      | some entry =>
        if entry.composed = code then decomposeChar fuel entry.first ++ [entry.second]
        else [code]
      | none => [code]

/-- Inserts a mark before the marks at the end that have a higher class. The text is given
and returned last character first. -/
def insertMark (markClass : Nat) (c : Char) : List Char → List Char
  | [] => [c]
  | previous :: rest =>
    if markClass < combiningClass previous then previous :: insertMark markClass c rest
    else c :: previous :: rest

def orderMarks (text : List Char) : List Char :=
  (text.foldl (fun reversed c =>
    let markClass := combiningClass c
    if markClass = 0 then c :: reversed else insertMark markClass c reversed) []).reverse

def compose? (first second : Char) : Option Char :=
  let a := first.toNat
  let b := second.toNat
  if 0x1100 ≤ a ∧ a < 0x1113 ∧ 0x1161 ≤ b ∧ b < 0x1176 then
    some (Char.ofNat (0xAC00 + ((a - 0x1100) * 21 + (b - 0x1161)) * 28))
  else if 0xAC00 ≤ a ∧ a ≤ 0xD7A3 ∧ (a - 0xAC00) % 28 = 0 ∧ 0x11A8 ≤ b ∧ b < 0x11C3 then
    some (Char.ofNat (a + (b - 0x11A7)))
  else
    match lastStarting? Composition.pairKey compositionsByPair (a * 0x110000 + b) with
    | some entry =>
      if entry.first = a ∧ entry.second = b then some (Char.ofNat entry.composed) else none
    | none => none

/-- Composes what follows a base. `kept` holds the marks that stayed, last first, and
`keptClass` the class of the last of them. -/
def composeFrom (base : Char) (kept : List Char) (keptClass : Nat) : List Char → List Char
  | [] => base :: kept.reverse
  | c :: rest =>
    let markClass := combiningClass c
    let blocked := kept ≠ [] ∧ markClass ≤ keptClass
    match if blocked then none else compose? base c with
    | some composed => composeFrom composed kept keptClass rest
    | none =>
      if markClass = 0 then base :: kept.reverse ++ composeFrom c [] 0 rest
      else composeFrom base (c :: kept) markClass rest

def composeAll : List Char → List Char
  | [] => []
  | c :: rest =>
    if combiningClass c = 0 then composeFrom c [] 0 rest else c :: composeAll rest

def normalize (text : List Char) : List Char :=
  composeAll (orderMarks (text.flatMap fun c => (decomposeChar 4 c.toNat).map Char.ofNat))

end PageLoad.Domain

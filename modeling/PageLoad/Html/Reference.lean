import PageLoad.Html.EntityTable
import PageLoad.Html.Fault
import PageLoad.Text.CodePoints

/-!
Character references: `&` with a name or a number that stands for other characters.

A name is the longest one in the table that the text opens with. A reference that stands for
nothing leaves the `&` in the text.
-/

namespace PageLoad.Html
open PageLoad.Text

abbrev Entity := List Char × List Char

def Entity.ofText (entry : List Char) : Entity :=
  (entry.takeWhile (· ≠ '='),
    (((entry.dropWhile (· ≠ '=')).drop 1).splitOn '+').map fun code => Char.ofNat (hexNumber code))

def entities : List Entity := (words entityText).map Entity.ofText

def Entity.after (c : Char) (candidates : List Entity) : List Entity :=
  candidates.filterMap fun (name, value) =>
    match name with
    | first :: rest => if first = c then some (rest, value) else none
    | [] => none

def entityGroups : List (Char × List Entity) :=
  (entities.filterMap (·.1.head?)).eraseReps.map fun c => (c, Entity.after c entities)

def entitiesFrom (c : Char) : List Entity := (entityGroups.lookup c).getD []

structure NameMatch where
  found : Option (List Char × Nat)
  followed : Nat

def matchName (candidates : List Entity) (count : Nat) (best : Option (List Char × Nat)) :
    List Char → NameMatch
  | [] => ⟨best, count⟩
  | c :: rest =>
    match Entity.after c candidates with
    | [] => ⟨best, count⟩
    | next =>
      let best' := match next.find? (fun entity => entity.1 = []) with
        | some (_, value) => some (value, count + 1)
        | none => best
      matchName next (count + 1) best' rest

def matchEntity : List Char → NameMatch
  | [] => ⟨none, 0⟩
  | c :: rest =>
    match entitiesFrom c with
    | [] => ⟨none, 0⟩
    | candidates => matchName candidates 1 none rest

structure Reference where
  value : List Char
  length : Nat
  /-- How many characters after it were looked at and then put back. -/
  putBack : Nat
  faults : List Fault

def controlReplacements : List Nat :=
  [0x20AC, 0x81, 0x201A, 0x0192, 0x201E, 0x2026, 0x2020, 0x2021, 0x02C6, 0x2030, 0x0160, 0x2039,
   0x0152, 0x8D, 0x017D, 0x8F, 0x90, 0x2018, 0x2019, 0x201C, 0x201D, 0x2022, 0x2013, 0x2014,
   0x02DC, 0x2122, 0x0161, 0x203A, 0x0153, 0x9D, 0x017E, 0x0178]

def isFaultyNumber (n : Nat) : Bool :=
  n = 0 || 0x10FFFF < n || (0xD800 ≤ n && n ≤ 0xDFFF) || (0x80 ≤ n && n ≤ 0x9F) ||
    (0x01 ≤ n && n ≤ 0x08) || n = 0x0B || (0x0D ≤ n && n ≤ 0x1F) || n = 0x7F ||
    (0xFDD0 ≤ n && n ≤ 0xFDEF) || n % 0x10000 = 0xFFFE || n % 0x10000 = 0xFFFF

def numberedChar (n : Nat) : Char :=
  if n = 0 ∨ 0x10FFFF < n ∨ (0xD800 ≤ n ∧ n ≤ 0xDFFF) then '\uFFFD'
  else if 0x80 ≤ n ∧ n ≤ 0x9F then Char.ofNat (controlReplacements.getD (n - 0x80) n)
  else Char.ofNat n

def readNumber (base markLength : Nat) (text : List Char) : Reference :=
  let digits := text.takeWhile fun c => match hexDigit? c with
    | some d => d < base
    | none => false
  if digits = [] then
    { value := [], length := 0, putBack := markLength
      faults := [if text = [] ∧ markLength = 1 then .endAfterHash else .numberWithoutDigits] }
  else
    let n := digits.foldl (fun value c => base * value + (hexDigit? c).getD 0) 0
    let unended : List Fault := match text.drop digits.length with
      | ';' :: _ => []
      | [] => [.endInNumber]
      | _ => [.numberWithoutSemicolon]
    { value := [numberedChar n]
      length := markLength + digits.length + (if unended = [] then 1 else 0)
      putBack := 0
      faults := unended ++ (if isFaultyNumber n then [.invalidNumber] else []) }

/-- A named reference. In an attribute, a name without a semicolon that goes on with a letter,
a digit or an equals sign is no reference. -/
def readName (inAttribute : Bool) (text : List Char) : Reference :=
  let ⟨found, followed⟩ := matchEntity text
  match found with
  | some (value, length) =>
    let lookedAt := (text.take (followed + 1)).length
    let ended := (text.drop (length - 1)).head? = some ';'
    let next := if length < lookedAt then (text.drop length).head? else none
    if ended then { value, length, putBack := lookedAt - length, faults := [] }
    else if inAttribute ∧ next = some '=' then
      { value := [], length := 0, putBack := lookedAt, faults := [.referenceBeforeEquals] }
    else if inAttribute ∧ next.any Char.isAlphanum then
      { value := [], length := 0, putBack := lookedAt, faults := [] }
    else
      { value, length, putBack := lookedAt - length, faults := [.referenceWithoutSemicolon] }
  | none =>
    let word := text.takeWhile Char.isAlphanum
    let rest := text.drop word.length
    { value := [], length := 0, putBack := word.length + (rest.take 1).length
      faults := if word ≠ [] ∧ rest.head? = some ';' then [.invalidReference] else [] }

def readReference (inAttribute : Bool) (text : List Char) : Reference :=
  match text with
  | '#' :: 'x' :: rest | '#' :: 'X' :: rest => readNumber 16 2 rest
  | '#' :: rest => readNumber 10 1 rest
  | c :: _ =>
    if ['\t', '\n', '\x0C', ' ', '<', '&'].contains c then
      { value := [], length := 0, putBack := 0, faults := [] }
    else readName inAttribute text
  | [] => { value := [], length := 0, putBack := 0, faults := [] }

inductive SeenBreak where
  | none
  | dropped
  | kept
  deriving DecidableEq

/-- What becomes of a carriage return that was looked at after a reference in a text. -/
def Reference.seenBreak (reference : Reference) (text : List Char) : SeenBreak :=
  let seen := (text.drop reference.length).take reference.putBack
  if seen.getLast? ≠ some '\r' then .none else if seen.length = 1 then .dropped else .kept

def Reference.rest (reference : Reference) (text : List Char) : List Char :=
  let after := text.drop reference.length
  match reference.seenBreak text with
  | .none => after
  | .dropped => after.drop 1
  | .kept => after.take (reference.putBack - 1) ++ '\n' :: after.drop reference.putBack

def Reference.taken (reference : Reference) (text : List Char) : Nat :=
  reference.length + (if reference.seenBreak text = .dropped then 1 else 0)

def dropsBreak (before : List Char) : Bool :=
  let name := (before.takeWhile (· ≠ '&')).reverse
  let text := name ++ ['\r']
  let reference := readReference true text
  before.drop name.length ≠ [] && reference.length = name.length &&
    reference.seenBreak text = .dropped

/-- The value of an attribute: references replaced, line breaks and NUL characters too. The value
takes the first `length` characters; those after it may tell that the last reference is none.
In a value without quotes, some characters are problems where a line break was dropped. -/
def decodeValue (quoted : Bool) (length : Nat) (text : List Char) : List Char × List Fault :=
  match length, text with
  | 0, _ | _, [] => ([], [])
  | length + 1, '\x00' :: rest =>
    let (value, faults) := decodeValue quoted length rest
    ('\uFFFD' :: value, .badCharacter :: faults)
  | length + 2, '\r' :: '\n' :: rest =>
    let (value, faults) := decodeValue quoted length rest
    ('\n' :: value, faults)
  | length + 1, '\r' :: rest =>
    let (value, faults) := decodeValue quoted length rest
    ('\n' :: value, faults)
  | length + 1, '&' :: rest =>
    let reference := readReference true rest
    let after := reference.rest rest
    let left := length - reference.taken rest
    let exposed : List Fault :=
      if !quoted && reference.seenBreak rest = .dropped && 0 < left &&
          after.head?.any "\"'<=\x60".toList.contains then [.badCharacter] else []
    let (value, faults) := decodeValue quoted left after
    ((if reference.value = [] then ['&'] else reference.value) ++ value,
      reference.faults ++ exposed ++ faults)
  | length + 1, c :: rest =>
    let (value, faults) := decodeValue quoted length rest
    (c :: value, faults)
termination_by length

end PageLoad.Html

/-!
Punycode (RFC 3492): text over all of Unicode written with ASCII letters, digits and hyphens.

The ASCII characters come first, then a hyphen if there were any, then the others as distances
from one insertion to the next, in ascending order of code point. Each distance is a number in
a base-36 notation of varying length whose digit limits follow an adaptive bias.
-/

namespace PageLoad.Domain.Punycode

def digit (value : Nat) : Char :=
  if value < 26 then Char.ofNat ('a'.toNat + value) else Char.ofNat ('0'.toNat + (value - 26))

def digitValue? (c : Char) : Option Nat :=
  if 'a' ≤ c ∧ c ≤ 'z' then some (c.toNat - 'a'.toNat)
  else if 'A' ≤ c ∧ c ≤ 'Z' then some (c.toNat - 'A'.toNat)
  else if '0' ≤ c ∧ c ≤ '9' then some (c.toNat - '0'.toNat + 26)
  else none

def threshold (position bias : Nat) : Nat :=
  if position ≤ bias then 1 else if bias + 26 ≤ position then 26 else position - bias

theorem threshold_pos (position bias : Nat) : 1 ≤ threshold position bias := by
  unfold threshold; split <;> (try split) <;> omega

/-- Scales a distance down below 456 and counts the steps in 36s. -/
def scale (distance position : Nat) : Nat × Nat :=
  if 455 < distance then scale (distance / 35) (position + 36) else (distance, position)
termination_by distance
decreasing_by exact Nat.div_lt_self (by omega) (by omega)

def adapt (distance count : Nat) (first : Bool) : Nat :=
  let halved := if first then distance / 700 else distance / 2
  let (rest, position) := scale (halved + halved / count) 0
  position + 36 * rest / (rest + 38)

def distanceDigits (bias position distance : Nat) : List Char :=
  let limit := threshold position bias
  if distance < limit then [digit distance]
  else
    digit (limit + (distance - limit) % (36 - limit)) ::
      distanceDigits bias (position + 36) ((distance - limit) / (36 - limit))
termination_by distance
decreasing_by
  have := threshold_pos position bias
  calc (distance - threshold position bias) / (36 - threshold position bias)
      ≤ distance - threshold position bias := Nat.div_le_self _ _
    _ < distance := by omega

structure Progress where
  written : List Char
  distance : Nat
  bias : Nat
  handled : Nat

def place (basicCount point : Nat) (progress : Progress) (c : Char) : Progress :=
  if c.toNat < point then { progress with distance := progress.distance + 1 }
  else if c.toNat = point then
    { written := progress.written ++ distanceDigits progress.bias 36 progress.distance
      distance := 0
      bias := adapt progress.distance (progress.handled + 1) (progress.handled = basicCount)
      handled := progress.handled + 1 }
  else progress

def placeAll (text : List Char) (basicCount : Nat) :
    List Nat → Nat → Progress → Progress
  | [], _, progress => progress
  | point :: points, reached, progress =>
    let ahead := progress.distance + (point - reached) * (progress.handled + 1)
    let placed := text.foldl (place basicCount point) { progress with distance := ahead }
    placeAll text basicCount points (point + 1) { placed with distance := placed.distance + 1 }

def extendedPoints (text : List Char) : List Nat :=
  ((text.filter (fun c => 0x80 ≤ c.toNat)).map Char.toNat).mergeSort.eraseDups

def encode (text : List Char) : List Char :=
  let basic := text.filter (fun c => c.toNat < 0x80)
  let start : Progress := { written := [], distance := 0, bias := 72, handled := basic.length }
  let placed := placeAll text basic.length (extendedPoints text) 0x80 start
  (if basic = [] then [] else basic ++ ['-']) ++ placed.written

/-- Reads one distance: its value and the digits after it. The weight of a digit has 32 bits. -/
def readDistance (bias : Nat) : Nat → Nat → Nat → List Char → Option (Nat × List Char)
  | _, _, _, [] => none
  | position, weight, value, c :: rest => do
    let d ← digitValue? c
    let total := value + d * weight
    let limit := threshold position bias
    if d < limit then some (total, rest)
    else if UInt32.size ≤ weight * (36 - limit) then none
    else readDistance bias (position + 36) (weight * (36 - limit)) total rest

theorem readDistance_shorter {bias position weight value total : Nat} {digits rest : List Char}
    (read : readDistance bias position weight value digits = some (total, rest)) :
    rest.length < digits.length := by
  induction digits generalizing position weight value with
  | nil => simp [readDistance] at read
  | cons c digits ih =>
    simp only [readDistance, Option.bind_eq_bind] at read
    cases found : digitValue? c with
    | none => simp [found] at read
    | some d =>
      simp only [found, Option.bind_some] at read
      split at read
      · simp_all
      · split at read
        · simp at read
        have := ih read
        simp only [List.length_cons]
        omega

def insertAll (digits : List Char) (point index bias : Nat) (text : List Char) :
    Option (List Char) :=
  if digits = [] then some text
  else
    match _found : readDistance bias 36 1 0 digits with
    | none => none
    | some (distance, rest) =>
      let places := text.length + 1
      let point' := point + (index + distance) / places
      let index' := (index + distance) % places
      if point' < 0x110000 ∧ ¬(0xD800 ≤ point' ∧ point' < 0xE000) then
        insertAll rest point' (index' + 1) (adapt distance places (index = 0))
          (text.take index' ++ Char.ofNat point' :: text.drop index')
      else none
termination_by digits.length
decreasing_by exact readDistance_shorter _found

/-- The text before the last hyphen is taken as it is, the digits after it are insertions. A
hyphen with nothing before it separates nothing, so it is refused as a digit. -/
def decode? (text : List Char) : Option (List Char) :=
  let digits := (text.reverse.takeWhile (· ≠ '-')).reverse
  let basic := text.take (text.length - digits.length - 1)
  if digits.length < text.length ∧ basic = [] then none
  else if basic.all (fun c => c.toNat < 0x80) then insertAll digits 0x80 0 72 basic
  else none

end PageLoad.Domain.Punycode

/-!
Sets of code points, and tables keyed by code point, written as hexadecimal text.

A set is a sorted list of closed ranges. Membership finds the last range that starts at or
below the code point, by bisection, and looks at its end.
-/

namespace PageLoad.Text

def hexDigit? (c : Char) : Option Nat :=
  if '0' ≤ c ∧ c ≤ '9' then some (c.toNat - '0'.toNat)
  else if 'a' ≤ c ∧ c ≤ 'f' then some (c.toNat - 'a'.toNat + 10)
  else if 'A' ≤ c ∧ c ≤ 'F' then some (c.toNat - 'A'.toNat + 10)
  else none

def hexNumber (digits : List Char) : Nat :=
  digits.foldl (fun value c => match hexDigit? c with
    | some d => 16 * value + d
    | none => value) 0

def words (text : String) : List (List Char) :=
  (text.toList.splitOnP fun c => c = ' ' || c = '\n').filter (· ≠ [])

/-- The index just past the entries that start at or below `code`, looked for between `low`
and `high`. -/
def bisect {α : Type} (first : α → Nat) (entries : Array α) (code low high : Nat) : Nat :=
  if _ : low < high then
    let middle := (low + high) / 2
    match entries[middle]? with
    | some entry =>
      if first entry ≤ code then bisect first entries code (middle + 1) high
      else bisect first entries code low middle
    | none => low
  else low
termination_by high - low
decreasing_by all_goals omega

def lastStarting? {α : Type} (first : α → Nat) (entries : Array α) (code : Nat) : Option α :=
  match bisect first entries code 0 entries.size with
  | 0 => none
  | index + 1 => entries[index]?

structure CodePoints where
  ranges : Array (Nat × Nat)

namespace CodePoints

def ofText (text : String) : CodePoints where
  ranges := ((words text).map fun word =>
    match word.splitOn '-' with
    | [first, last] => (hexNumber first, hexNumber last)
    | _ => (hexNumber word, hexNumber word)).toArray

def contains (points : CodePoints) (code : Nat) : Bool :=
  match lastStarting? Prod.fst points.ranges code with
  | some (_, last) => code ≤ last
  | none => false

end CodePoints

end PageLoad.Text

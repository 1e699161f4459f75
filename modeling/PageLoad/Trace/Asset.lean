import PageLoad.Number.Reading
import PageLoad.Number.Shortest
import PageLoad.Text.Blank
import PageLoad.Text.Quoted

/-!
One asset of a recorded page, read from the line that a crawl printed for it.
-/

namespace PageLoad.Trace
open Number Text

structure Asset where
  id : String
  parentId : String
  length : Nat
  delay : Double
  url : String
  deriving DecidableEq, Repr

inductive RecordError where
  | fieldCount (found : Nat)
  | badNumber (field value : String)
  deriving DecidableEq, Repr

def RecordError.message : RecordError → String
  | .fieldCount found => "expected 7 comma-separated fields, found " ++ toString found
  | .badNumber field value => "bad " ++ field ++ " value " ++ quote value

def splitFields : Nat → List Char → List (List Char)
  | 0, text => [text]
  | commas + 1, text =>
    match text.dropWhile (· ≠ ',') with
    | [] => [text]
    | _ :: rest => text.takeWhile (· ≠ ',') :: splitFields commas rest

def readDelay (field : List Char) : Except RecordError Double :=
  match readDouble? (trim field) with
  | none => .error (.badNumber "elapsed" (String.ofList field))
  | some delay =>
    if delay.isFinite && !delay.isBelowZero then .ok delay
    else .error (.badNumber "elapsed" delay.plain)

def readLength (field : List Char) : Except RecordError Nat :=
  match readNat? UInt64.size (trim field) with
  | some length => .ok length
  | none => .error (.badNumber "length" (String.ofList field))

def trimmed (field : List Char) : String := String.ofList (trim field)

/-- Reads a line. The depth and the content type are not looked at. -/
def Asset.parse (line : String) : Except RecordError Asset :=
  match splitFields 6 line.toList with
  | [id, parentId, _, _, length, delay, url] => do
    let length ← readLength length
    let delay ← readDelay delay
    return { id := trimmed id, parentId := trimmed parentId, length, delay, url := trimmed url }
  | fields => .error (.fieldCount fields.length)

end PageLoad.Trace

import PageLoad.Trace.Reader

/-!
Pages that are asked for one at a time. Whoever asks may go on asking: after a line that is no text,
after a page whose lengths are too much, and after the last page.
-/

namespace PageLoad.Trace
open Text

inductive Found where
  | page (page : Page)
  | overflow
  /-- A line is no text. The records that have been read of its page are lost. -/
  | unreadable (flaw : Utf8.Flaw)
  deriving DecidableEq, Repr

def lineOf (raw : List UInt8) : Except Utf8.Flaw String :=
  (Utf8.decode (dropLineEnd raw)).map String.ofList

structure Reader where
  unread : List (Except Utf8.Flaw String)
  finished : Bool

namespace Reader

def ofBytes (input : List UInt8) : Reader := ⟨(rawLines input).map lineOf, false⟩

/-- What the records of a page come to where it ends. Without records there is no page. -/
def conclude? (records : List Asset) : Option Found :=
  if records = [] then none
  else
    match Page.ofRecords? records with
    | some page => some (.page page)
    | none => some .overflow

/-- Reads lines up to the end of a page, some of its records having been read. Returns also the
steps by which lines have been skipped. -/
def readOn (records : List Asset) :
    List (Except Utf8.Flaw String) → Reader × List Step × Option Found
  | [] => (⟨[], true⟩, [], conclude? records)
  | .error flaw :: rest => (⟨rest, false⟩, [], some (.unreadable flaw))
  | .ok line :: rest =>
    if isMarker line then
      if records = [] then readOn [] rest else (⟨rest, false⟩, [], conclude? records)
    else if isPassedOver line then readOn records rest
    else
      match Asset.parse line with
      | .ok asset => readOn (records ++ [asset]) rest
      | .error error =>
        let (reader, skipped, found) := readOn records rest
        (reader, .skipped line error :: skipped, found)

def nextPage (reader : Reader) : Reader × List Step × Option Found :=
  if reader.finished then (reader, [], none) else readOn [] reader.unread

def found? (reader : Reader) : Nat → Option Found
  | 0 => reader.nextPage.2.2
  | count + 1 => reader.nextPage.1.found? count

def proceed (found : Option Found) (next : List Step) : List Step :=
  match found with
  | none => []
  | some (.page page) => .page page :: next
  | some .overflow => [.overflow]
  | some (.unreadable flaw) => [.unreadable flaw]

def steps (reader : Reader) : Nat → List Step
  | 0 => []
  | count + 1 =>
    let (next, skipped, found) := reader.nextPage
    skipped ++ proceed found (next.steps count)

end Reader

end PageLoad.Trace

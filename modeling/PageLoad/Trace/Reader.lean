import PageLoad.Log
import PageLoad.Text.Lines
import PageLoad.Trace.Page

/-!
Reading what a crawl printed back in as pages. A line that begins with `==` ends a page, and so
does the end of the input; a page without assets is none.
-/

namespace PageLoad.Trace
open Text

inductive Step where
  | skipped (line : String) (error : RecordError)
  | page (page : Page)
  | overflow
  | unreadable (flaw : Utf8.Flaw)
  deriving DecidableEq, Repr

def isMarker (line : String) : Bool := "==".toList.isPrefixOf line.toList

def isPassedOver (line : String) : Bool :=
  line.toList.head? = some '#' || line.toList.all isBlank

def close (records : List Asset) (next : List Step) : List Step :=
  if records = [] then next
  else
    match Page.ofRecords? records with
    | some page => .page page :: next
    | none => [.overflow]

def steps (flaw : Option Utf8.Flaw) (records : List Asset) : List String → List Step
  | [] =>
    match flaw with
    | some flaw => [.unreadable flaw]
    | none => close records []
  | line :: rest =>
    if isMarker line then close records (steps flaw [] rest)
    else if isPassedOver line then steps flaw records rest
    else
      match Asset.parse line with
      | .ok asset => steps flaw (records ++ [asset]) rest
      | .error error => .skipped line error :: steps flaw records rest

def read (input : List UInt8) : List Step :=
  let lines := Lines.ofBytes input
  steps lines.flaw [] lines.lines

def Page.log (page : Page) : List LogEntry :=
  page.orphans.map fun (parent, count) =>
    ⟨.warn, "assets whose parent was never recorded will not be replayed",
      [("parent", .text parent), ("orphans", .count count)]⟩

def Step.log : Step → List LogEntry
  | .skipped line error =>
    [⟨.warn, "skipping trace line " ++ quote line ++ ": " ++ error.message, []⟩]
  | .page found => found.log
  | .overflow | .unreadable _ => []

end PageLoad.Trace

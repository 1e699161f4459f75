import PageLoad.Number.Shortest
import PageLoad.Text.Json

/-!
The lines that a crawl prints: one when a round starts, one for each task that has been
finished, and one when the round ends. They are separated by commas, the URL coming last
because it alone may contain one, or JSON objects.
-/

namespace PageLoad.Crawl
open Number Text

structure TaskReport where
  id : String
  parentId : String
  depth : Nat
  contentType : String
  bytes : Nat
  elapsed : Double
  url : String
  deriving DecidableEq, Repr

structure RoundSummary where
  rank : String
  url : String
  elapsed : Double
  tasks : Nat
  bytes : Nat
  deriving DecidableEq, Repr

inductive Event where
  | roundStart (rank url : String)
  | task (report : TaskReport)
  | roundEnd (summary : RoundSummary)
  deriving DecidableEq, Repr

inductive ReportFormat where
  | csv
  | json
  deriving DecidableEq, Repr

def ReportFormat.default : ReportFormat := .csv

def TaskReport.csv (report : TaskReport) : String :=
  String.intercalate ","
    [report.id, report.parentId, toString report.depth, report.contentType,
      toString report.bytes, report.elapsed.fixed, report.url]

def RoundSummary.csv (summary : RoundSummary) : String :=
  "#" ++ String.intercalate ","
    [summary.rank, summary.elapsed.fixed, toString summary.tasks, toString summary.bytes]

/-- A number of seconds in JSON, null if it is not finite. -/
def jsonSeconds (seconds : Double) : String := seconds.data?.getD "null"

def TaskReport.json (report : TaskReport) : String :=
  Json.object
    [("event", Json.string "task"),
      ("id", Json.string report.id),
      ("parent_id", Json.string report.parentId),
      ("depth", toString report.depth),
      ("content_type", Json.string report.contentType),
      ("bytes", toString report.bytes),
      ("elapsed", jsonSeconds report.elapsed),
      ("url", Json.string report.url)]

def RoundSummary.json (summary : RoundSummary) : String :=
  Json.object
    [("event", Json.string "round_end"),
      ("rank", Json.string summary.rank),
      ("url", Json.string summary.url),
      ("elapsed", jsonSeconds summary.elapsed),
      ("tasks", toString summary.tasks),
      ("bytes", toString summary.bytes)]

namespace Event

def csv : Event → String
  | .roundStart rank url => "==" ++ rank ++ "," ++ url ++ "=="
  | .task report => report.csv
  | .roundEnd summary => summary.csv

def json : Event → String
  | .roundStart rank url =>
    Json.object
      [("event", Json.string "round_start"), ("rank", Json.string rank), ("url", Json.string url)]
  | .task report => report.json
  | .roundEnd summary => summary.json

def line (format : ReportFormat) (event : Event) : String :=
  match format with
  | .csv => event.csv
  | .json => event.json

def text (format : ReportFormat) (events : List Event) : String :=
  String.join (events.map fun event => event.line format ++ "\n")

end Event

end PageLoad.Crawl

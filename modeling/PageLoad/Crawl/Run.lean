import PageLoad.Crawl.Round
import PageLoad.Crawl.Seed
import PageLoad.Log
import PageLoad.Text.Lines

/-!
A crawl: one round after another, for each line of the input that is a seed.
-/

namespace PageLoad.Crawl
open Number Fetch

inductive Happening where
  | skipped (error : SeedError)
  | started (rank url : String)
  | worked (taskEnd : TaskEnd)
  | ended (summary : RoundSummary)

namespace Happening

def event? : Happening → Option Event
  | .started rank url => some (.roundStart rank url)
  | .worked (.reported report) => some (.task report)
  | .ended summary => some (.roundEnd summary)
  | .skipped _ | .worked (.dropped _ _) | .worked (.crashed _ _) => none

def fetched? : Happening → Option String
  | .worked (.reported report) => some report.url
  | .worked (.dropped task _) | .worked (.crashed task _) => some task.url
  | .skipped _ | .started _ _ | .ended _ => none

def log? : Happening → Option LogEntry
  | .skipped error => some ⟨.warn, "skipping seed line: " ++ error.message, []⟩
  | .worked (.dropped task failure) =>
    some ⟨.warn, "dropping task: " ++ failure.message,
      [("task", .text task.id), ("reason", .text failure.reason)]⟩
  | .worked (.crashed task crash) =>
    some ⟨.error, "worker cycle panicked: " ++ crash.message,
      [("task", .text task.id), ("url", .text task.url)]⟩
  | .ended summary =>
    some ⟨.info, "round finished",
      [("rank", .text summary.rank), ("tasks", .count summary.tasks),
        ("bytes", .count summary.bytes)]⟩
  | .started _ _ | .worked (.reported _) => none

end Happening

/-- A round for a seed, from its first line to its last. The round takes no time of its own. -/
def runRound (fetch : String → Outcome) (limit : Nat) (seed : Seed) : List Happening :=
  let round := Round.start seed.rank seed.url.text
  let (last, ends) := round.drain fetch limit
  .started round.rank round.seedUrl :: ends.map .worked ++ [.ended (last.summary .zero)]

/-- What a line of the input leads to. A blank one leads to nothing, one that is no seed costs
no more than itself. -/
def runLine (fetch : String → Outcome) (limit : Nat) (line : String) : List Happening :=
  if line.toList.all Text.isBlank then []
  else
    match Seed.parse line with
    | .error error => [.skipped error]
    | .ok seed => runRound fetch limit seed

structure History where
  happenings : List Happening
  flaw : Option Text.Utf8.Flaw

/-- Crawls what the lines of an input name. No round has more tasks than `limit`. -/
def run (fetch : String → Outcome) (limit : Nat) (input : List UInt8) : History :=
  let lines := Text.Lines.ofBytes input
  ⟨lines.lines.flatMap (runLine fetch limit), lines.flaw⟩

def runSite (site : Site) (input : List UInt8) : History := run site.fetch site.size input

namespace History

def events (history : History) : List Event := history.happenings.filterMap (·.event?)

def fetched (history : History) : List String := history.happenings.filterMap (·.fetched?)

def log (history : History) : List LogEntry := history.happenings.filterMap (·.log?)

def result (history : History) : Except String Nat :=
  match history.flaw with
  | some flaw => .error ("reading seed lines: " ++ flaw.message)
  | none => .ok (history.events.countP fun event => event matches .roundEnd _)

end History

def poolSize (workers : Nat) : Nat := max workers 1

end PageLoad.Crawl

import PageLoad.Replay.Walk
import PageLoad.Trace.Reader

/-!
A replay: all pages of a recorded crawl, one after another.
-/

namespace PageLoad.Replay
open Text Trace

inductive Happening where
  | read (step : Step)
  | replayed (outcome : Outcome)

namespace Happening

def line? : Happening → Option String
  | .replayed outcome => some outcome.line
  | .read _ => none

def log : Happening → List LogEntry
  | .read step => step.log
  | .replayed outcome => outcome.log

end Happening

def runStep (send : Send) (limit : Nat) (step : Step) : List Happening :=
  match step with
  | .page page => [.read step, .replayed (replayPage send limit page)]
  | .skipped _ _ | .overflow | .unreadable _ => [.read step]

/-- Replays the pages in an input. No page has more requests than `limit`. -/
def run (send : Send) (limit : Nat) (input : List UInt8) : List Happening :=
  (Trace.read input).flatMap (runStep send limit)

inductive Stop where
  | overflow
  | unreadable (flaw : Utf8.Flaw)
  deriving DecidableEq, Repr

def Stop.message : Stop → String
  | .overflow => Trace.Page.overflowMessage
  | .unreadable flaw => "reading crawl trace: " ++ flaw.message

def stop? : Happening → Option Stop
  | .read .overflow => some .overflow
  | .read (.unreadable flaw) => some (.unreadable flaw)
  | .read (.skipped _ _) | .read (.page _) | .replayed _ => none

def result (happenings : List Happening) : Except Stop Nat :=
  match happenings.findSome? stop? with
  | some stop => .error stop
  | none => .ok (happenings.countP fun happening => happening matches .replayed _)

def heading : String := "time,total_bytes"

def output (happenings : List Happening) : List String :=
  heading :: happenings.filterMap (·.line?)

def log (happenings : List Happening) : List LogEntry := happenings.flatMap (·.log)

end PageLoad.Replay

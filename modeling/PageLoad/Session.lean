import PageLoad.Cli.Invocation
import PageLoad.Crawl.Run
import PageLoad.Replay.Client
import PageLoad.Replay.Run

/-!
What the program does for a command line and an input: what it prints, what it says about its
work, and how it ends.
-/

namespace PageLoad
open Http

inductive Session where
  | declined (error : Cli.Error)
  | unnamed
  | crawled (format : Crawl.ReportFormat) (history : Crawl.History)
  | unstarted (error : Replay.StartError)
  | replayed (happenings : List Replay.Happening)
  | serving (settings : Server.Settings)

namespace Session

def crawl (network : Network) (limit : Nat) (settings : Crawl.Settings) (input : List UInt8) :
    Session :=
  match Fetch.Client.make? settings.userAgent with
  | none => .unnamed
  | some client => .crawled settings.format (Crawl.run (client.fetch network) limit input)

def replay (network : Network) (limit : Nat) (settings : Replay.Settings) (input : List UInt8) :
    Session :=
  match Replay.Client.make settings with
  | .error error => .unstarted error
  | .ok client => .replayed (Replay.run (client.send network) limit input)

/-- Does what is asked for. No round and no page has more requests than `limit`. -/
def perform (network : Network) (limit : Nat) (command : Cli.Command) (input : List UInt8) :
    Session :=
  match command with
  | .crawl settings => crawl network limit settings input
  | .replay settings => replay network limit settings input
  | .serve settings => .serving settings

/-- Does what is asked for where nobody can be reached, so that nothing leads any further. -/
def performAlone (command : Cli.Command) (input : List UInt8) : Session :=
  perform .empty 1 command input

def output : Session → List String
  | .declined .version => [Cli.versionText]
  | .crawled format history => history.events.map (·.line format)
  | .replayed happenings => Replay.output happenings
  | .declined _ | .unnamed | .unstarted _ | .serving _ => []

def log : Session → List LogEntry
  | .crawled _ history => history.log
  | .replayed happenings => Replay.log happenings
  | .declined _ | .unnamed | .unstarted _ | .serving _ => []

inductive Ending where
  | finished
  | declined (message : String)
  | failed (message : String)
  | brokeDown
  deriving DecidableEq, Repr

def ending : Session → Ending
  | .declined error => if error.exitCode = 0 then .finished else .declined error.message
  | .unnamed => .failed ("building HTTP client: " ++ Fetch.Client.unnamedMessage)
  | .crawled _ history =>
    match history.result with
    | .ok _ => .finished
    | .error message => .failed message
  | .unstarted error => .failed error.message
  | .replayed happenings =>
    match Replay.result happenings with
    | .ok _ => .finished
    | .error .overflow => .brokeDown
    | .error stop => .failed stop.message
  | .serving _ => .finished

namespace Ending

def complaint? : Ending → Option String
  | .finished | .brokeDown => none
  | .declined message => if message = "" then none else some message
  | .failed message => some ("Error: " ++ message)

def exitCode : Ending → Nat
  | .finished => 0
  | .declined _ | .failed _ => 2
  | .brokeDown => 101

end Ending

end Session

end PageLoad

import PageLoad.Cli.Scan
import PageLoad.Crawl.Settings
import PageLoad.Replay.Settings
import PageLoad.Server.Settings

/-!
What a command line asks for: one of the three tools, with its settings.
-/

namespace PageLoad.Cli

inductive Command where
  | crawl (settings : Crawl.Settings)
  | replay (settings : Replay.Settings)
  | serve (settings : Server.Settings)
  deriving DecidableEq, Repr

structure Invocation where
  logLevel : Option String
  command : Command
  deriving DecidableEq, Repr

def commandNames : List String := ["crawl", "replay", "serve", "help"]

def Grammar.top : Grammar := ⟨[.logLevel], none, commandNames, true⟩

def Grammar.crawl : Grammar :=
  ⟨[.workers, .timeout, .userAgent, .json, .logLevel], none, [], false⟩

def Grammar.replay : Grammar :=
  ⟨[.workers, .timeout, .proxy, .logLevel], some .server, [], false⟩

def Grammar.serve : Grammar := ⟨[.host, .maxLength, .logLevel], some .port, [], false⟩

namespace Progress

def text? (progress : Progress) (parameter : Parameter) : Option String :=
  match progress.taken.lookup parameter.label with
  | some (.text value) => some value
  | _ => none

def number? (progress : Progress) (parameter : Parameter) : Option Nat :=
  match progress.taken.lookup parameter.label with
  | some (.number value) => some value
  | _ => none

def address? (progress : Progress) (parameter : Parameter) : Option Server.Address :=
  match progress.taken.lookup parameter.label with
  | some (.address value) => some value
  | _ => none

def has (progress : Progress) (parameter : Parameter) : Bool :=
  (progress.taken.lookup parameter.label).isSome

def crawl (progress : Progress) : Crawl.Settings :=
  let usual := Crawl.Settings.default
  { workers := (progress.number? .workers).getD usual.workers
    timeout := (progress.number? .timeout).getD usual.timeout
    userAgent := (progress.text? .userAgent).getD usual.userAgent
    format := if progress.has .json then .json else usual.format }

def replay (progress : Progress) : Except Error Replay.Settings :=
  match progress.text? .server with
  | none => .error .missingArguments
  | some server =>
    let usual := Replay.Settings.ofServer server
    .ok { usual with
      workers := (progress.number? .workers).getD usual.workers
      timeout := (progress.number? .timeout).getD usual.timeout
      proxy := progress.text? .proxy }

def serve (progress : Progress) : Server.Settings :=
  let usual := Server.Settings.default
  { host := (progress.address? .host).getD usual.host
    port := (progress.number? .port).getD usual.port
    maxLength := (progress.number? .maxLength).getD usual.maxLength }

end Progress

def scanAll (grammar : Grammar) (arguments : List String) : Except Error Progress := do
  let (progress, _) ← Progress.start.scan grammar arguments
  progress.settle

def helpAbout : List String → Error
  | [] => .help
  | name :: rest =>
    if !commandNames.contains name then .unknownCommand name
    else
      match rest with
      | [] => .help
      | extra :: _ => .unknownCommand extra

def readCommand (name : String) (arguments : List String) :
    Except Error (Option String × Command) :=
  if name = "crawl" then do
    let progress ← scanAll .crawl arguments
    return (progress.text? .logLevel, .crawl progress.crawl)
  else if name = "replay" then do
    let progress ← scanAll .replay arguments
    return (progress.text? .logLevel, .replay (← progress.replay))
  else if name = "serve" then do
    let progress ← scanAll .serve arguments
    return (progress.text? .logLevel, .serve progress.serve)
  else .error (helpAbout arguments)

/-- Reads a command line. What a command says about the log wins over what is said in front of
it, but what is wrong with the command is reported first. -/
def readInvocation (arguments : List String) : Except Error Invocation := do
  let (progress, command) ← Progress.start.scan .top arguments
  match command with
  | some (name, rest) =>
    let (logLevel, command) ← readCommand name rest
    let settled ← progress.settle
    return ⟨logLevel <|> settled.text? .logLevel, command⟩
  | none =>
    let settled ← progress.settle
    .error (if settled.taken.isEmpty then .nothing else .missingCommand)

end PageLoad.Cli

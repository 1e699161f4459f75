/-!
What the program has to say about its own work, as levelled messages with named values.
-/

namespace PageLoad

inductive Level where
  | info
  | warn
  | error
  deriving DecidableEq, Repr

def Level.name : Level → String
  | .info => "INFO"
  | .warn => "WARN"
  | .error => "ERROR"

inductive LogValue where
  | text (value : String)
  | count (value : Nat)
  deriving DecidableEq, Repr

def LogValue.shown : LogValue → String
  | .text value => value
  | .count value => toString value

structure LogEntry where
  level : Level
  message : String
  values : List (String × LogValue)
  deriving DecidableEq, Repr

def LogEntry.line (entry : LogEntry) : String :=
  String.intercalate " "
    (entry.level.name :: entry.message ::
      entry.values.map fun (name, value) => name ++ "=" ++ value.shown)

def LogEntry.isShown (logLevel : Option String) (entry : LogEntry) : Bool :=
  match logLevel with
  | some "off" => false
  | some "error" => entry.level = .error
  | some "warn" => entry.level ≠ .info
  | _ => true

end PageLoad

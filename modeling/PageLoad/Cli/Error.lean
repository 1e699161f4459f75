/-!
Why a command line does not lead to a command: it asks for something else, or it is wrong.
-/

namespace PageLoad.Cli

inductive Error where
  | help
  | version
  | nothing
  | missingCommand
  | unknownCommand (name : String)
  | unknownArgument (argument : String)
  | missingArguments
  | missingValue (label : String)
  | needlessValue (value label : String)
  | repeated (label : String)
  | badValue (value label reason : String)
  deriving DecidableEq, Repr

def programName : String := "pagecrawl"

def versionText : String := programName ++ " 0.1.0"

namespace Error

def message : Error → String
  | .help | .nothing => ""
  | .version => versionText
  | .missingCommand =>
    "error: '" ++ programName ++ "' requires a subcommand but one was not provided"
  | .unknownCommand name => "error: unrecognized subcommand '" ++ name ++ "'"
  | .unknownArgument argument => "error: unexpected argument '" ++ argument ++ "' found"
  | .missingArguments => "error: the following required arguments were not provided:"
  | .missingValue label =>
    "error: a value is required for '" ++ label ++ "' but none was supplied"
  | .needlessValue value label =>
    "error: unexpected value '" ++ value ++ "' for '" ++ label ++ "' found; no more were expected"
  | .repeated label => "error: the argument '" ++ label ++ "' cannot be used multiple times"
  | .badValue value label reason =>
    "error: invalid value '" ++ value ++ "' for '" ++ label ++ "': " ++ reason

def exitCode : Error → Nat
  | .help | .version => 0
  | _ => 2

end Error

end PageLoad.Cli

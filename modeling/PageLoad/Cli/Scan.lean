import PageLoad.Cli.Error
import PageLoad.Cli.Parameter

/-!
Going through the arguments of a command line. A value is read when the argument after it has
been recognised, so an argument that nobody knows is reported before a bad value in front of
it.
-/

namespace PageLoad.Cli

structure Grammar where
  options : List Parameter
  place : Option Parameter
  commands : List String
  hasVersion : Bool

structure Pending where
  parameter : Parameter
  value : Option String

structure Progress where
  taken : List (String × Value)
  pending : Option Pending
  placeTaken : Bool
  verbatim : Bool

def Progress.start : Progress := ⟨[], none, false, false⟩

inductive Shape where
  | escape
  | long (name : String) (value : Option String)
  | short (letter : Char)
  | word
  deriving DecidableEq, Repr

def longShape (text : List Char) : Shape :=
  let name := String.ofList (text.takeWhile (· ≠ '='))
  match text.dropWhile (· ≠ '=') with
  | [] => .long name none
  | _ :: value => .long name (some (String.ofList value))

def Shape.of (argument : String) : Shape :=
  match argument.toList with
  | ['-', '-'] => .escape
  | '-' :: '-' :: rest => longShape rest
  | '-' :: letter :: _ => .short letter
  | _ => .word

namespace Progress

/-- Takes down a parameter with its value. That it was given before is reported first. -/
def take (progress : Progress) (parameter : Parameter) (value : Except Error Value) :
    Except Error Progress :=
  if (progress.taken.lookup parameter.label).isSome then .error (.repeated parameter.label)
  else value.map fun value => { progress with taken := (parameter.label, value) :: progress.taken }

def takeText (progress : Progress) (parameter : Parameter) (reader : Reader) (text : String) :
    Except Error Progress :=
  progress.take parameter ((reader text).mapError (.badValue text parameter.label))

def settle (progress : Progress) : Except Error Progress :=
  let settled := { progress with pending := none }
  match progress.pending with
  | none => .ok settled
  | some ⟨parameter, none⟩ => .error (.missingValue parameter.label)
  | some ⟨parameter, some value⟩ =>
    settled.takeText parameter (parameter.reader.getD readText) value

def awaitsValue (progress : Progress) : Bool :=
  match progress.pending with
  | some ⟨_, none⟩ => true
  | _ => false

/-- Ends with an answer that is no command, unless what came before is wrong. -/
def endWith (progress : Progress) (error : Error) : Except Error Progress := do
  let _ ← progress.settle
  .error error

def stepLong (grammar : Grammar) (progress : Progress) (name : String)
    (value : Option String) : Except Error Progress :=
  let asked : Option Error :=
    if name = "help" then some .help
    else if name = "version" && grammar.hasVersion then some .version
    else none
  match asked, grammar.options.find? (·.name = name), value with
  | some _, _, some value => .error (.needlessValue value ("--" ++ name))
  | some error, _, none => progress.endWith error
  | none, none, _ => .error (.unknownArgument ("--" ++ name))
  | none, some parameter, some value =>
    match parameter.reader with
    | none => .error (.needlessValue value parameter.label)
    | some reader => do (← progress.settle).takeText parameter reader value
  | none, some parameter, none => do
    let settled ← progress.settle
    match parameter.reader with
    | none => settled.take parameter (.ok .present)
    | some _ => return { settled with pending := some ⟨parameter, none⟩ }

def stepShort (grammar : Grammar) (progress : Progress) (letter : Char) :
    Except Error Progress :=
  if letter = 'h' then progress.endWith .help
  else if letter = 'V' && grammar.hasVersion then progress.endWith .version
  else .error (.unknownArgument (String.ofList ['-', letter]))

/-- Goes on by an argument in its place. Where commands may follow, it should be one. -/
def stepPlace (grammar : Grammar) (progress : Progress) (argument : String) :
    Except Error Progress :=
  match grammar.place, progress.placeTaken with
  | some parameter, false => do
    let settled ← progress.settle
    return { settled with pending := some ⟨parameter, some argument⟩, placeTaken := true }
  | _, _ =>
    if grammar.commands = [] || grammar.commands.contains argument then
      .error (.unknownArgument argument)
    else .error (.unknownCommand argument)

def step (grammar : Grammar) (progress : Progress) (argument : String) :
    Except Error Progress :=
  if progress.verbatim then progress.stepPlace grammar argument
  else
    match Shape.of argument, progress.pending with
    | .escape, _ => .ok { progress with verbatim := true }
    | .long name value, _ => progress.stepLong grammar name value
    | .short letter, _ => progress.stepShort grammar letter
    | .word, some ⟨parameter, none⟩ =>
      .ok { progress with pending := some ⟨parameter, some argument⟩ }
    | .word, _ => progress.stepPlace grammar argument

def scan (grammar : Grammar) (progress : Progress) :
    List String → Except Error (Progress × Option (String × List String))
  | [] => .ok (progress, none)
  | argument :: rest =>
    if grammar.commands.contains argument && !progress.verbatim && !progress.awaitsValue then
      .ok (progress, some (argument, rest))
    else do (← progress.step grammar argument).scan grammar rest

end Progress

end PageLoad.Cli

import PageLoad.Html.Token

/-!
Elements whose content is text: it runs to their end tag, or to the end of the input. No token
is made of the text itself.
-/

namespace PageLoad.Html

/-- What stands for itself in the content: everything, everything but character references, or
a script, which may hide its end tag in a comment. -/
inductive RawKind where
  | verbatim
  | withReferences
  | script
  deriving DecidableEq

def isEndTagOf (name : List Char) (text : List Char) : Bool :=
  match text with
  | '/' :: rest =>
    let word := rest.takeWhile Char.isAlpha
    word.map Char.toLower = name &&
      match rest.drop word.length with
      | c :: _ => isSpace c || c = '/' || c = '>'
      | [] => false
  | _ => false

def scanText (references : Bool) (name : List Char) (faults : List Fault) :
    List Char → List Fault × List Char
  | [] => (faults, [])
  | c :: rest =>
    if c = '<' && isEndTagOf name rest then (faults, c :: rest)
    else
      let found :=
        if c = '\x00' then [.badCharacter]
        else if c = '&' && references then (readReference false rest).faults
        else []
      scanText references name (found.reverse ++ faults) rest

/-- Where in a script the next character stands: outside comments, in a comment, or in a script
element inside a comment. -/
inductive ScriptPlace where
  | plain
  | bang
  | opening
  | openingDash
  | escaped (dashes : Nat)
  | hidden (dashes : Nat)
  | startName (letters : List Char)
  | endSlash
  | endName (letters : List Char)
  deriving DecidableEq

namespace ScriptPlace

def settle (c : Char) : ScriptPlace → ScriptPlace
  | .opening => if c = '-' then .opening else .plain
  | .openingDash => if c = '-' then .openingDash else .plain
  | .startName letters =>
    if c.isAlpha || isSpace c || c = '/' || c = '>' then .startName letters else .escaped 0
  | .endName letters =>
    if c.isAlpha || isSpace c || c = '/' || c = '>' then .endName letters else .hidden 0
  | place => place

/-- The place after a character, in a settled place. `next` is the text after it. -/
def step (place : ScriptPlace) (c : Char) (next : List Char) : ScriptPlace :=
  let letterFollows := (next.head?.map Char.isAlpha).getD false
  let slashFollows := next.head? = some '/'
  let isScript (letters : List Char) : Bool := letters.reverse = "script".toList
  match place with
  | .plain => if c = '<' && next.head? = some '!' then .bang else .plain
  | .bang => .opening
  | .opening => .openingDash
  | .openingDash => .escaped 2
  | .escaped dashes =>
    if c = '-' then .escaped (min 2 (dashes + 1))
    else if c = '<' then (if letterFollows then .startName [] else .escaped 0)
    else if c = '>' && dashes = 2 then .plain
    else .escaped 0
  | .hidden dashes =>
    if c = '-' then .hidden (min 2 (dashes + 1))
    else if c = '<' then (if slashFollows then .endSlash else .hidden 0)
    else if c = '>' && dashes = 2 then .plain
    else .hidden 0
  | .startName letters =>
    if c.isAlpha then .startName (c.toLower :: letters)
    else if isScript letters then .hidden 0 else .escaped 0
  | .endSlash => .endName []
  | .endName letters =>
    if c.isAlpha then .endName (c.toLower :: letters)
    else if isScript letters then .escaped 0 else .hidden 0

def endsBadly : ScriptPlace → Bool
  | .plain | .bang | .openingDash => false
  | _ => true

def sees : ScriptPlace → Bool
  | .plain | .escaped _ => true
  | _ => false

end ScriptPlace

def scanScript (name : List Char) (place : ScriptPlace) (faults : List Fault) :
    List Char → List Fault × List Char
  | [] => (if place.endsBadly then .unexpectedEnd :: faults else faults, [])
  | c :: rest =>
    let settled := place.settle c
    if c = '<' && settled.sees && isEndTagOf name rest then (faults, c :: rest)
    else
      let faults' := if c = '\x00' then .badCharacter :: faults else faults
      scanScript name (settled.step c rest) faults' rest

end PageLoad.Html

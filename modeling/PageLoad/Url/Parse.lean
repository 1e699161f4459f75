import PageLoad.Text.Blank
import PageLoad.Url.Host
import PageLoad.Url.Path

/-!
Reading URLs, alone or relative to a base.

Control characters and spaces at the ends are dropped, tabs and line breaks anywhere, except that
they may part a drive letter from what follows. What is left is taken apart from the front:
scheme, authority, path, query, fragment. A reference that lacks the first of these takes them
from its base.
-/

namespace PageLoad.Url
open PageLoad.Text

def trimEdges (text : List Char) : List Char :=
  let isEdge (c : Char) : Bool := c.toNat ≤ 0x20
  dropEndWhile isEdge (text.dropWhile isEdge)

def dropVisible (count : Nat) (text : List Char) : List Char :=
  match count, text with
  | 0, text => text
  | _, [] => []
  | count + 1, c :: rest =>
    if isGap c then dropVisible (count + 1) rest else dropVisible count rest

def isSchemeChar (c : Char) : Bool := c.isAlphanum || c = '+' || c = '-' || c = '.'

def splitScheme? (text : List Char) : Option (String × List Char) :=
  match text with
  | [] => none
  | first :: _ =>
    if !first.isAlpha then none
    else
      match text.dropWhile isSchemeChar with
      | ':' :: rest => some (String.ofList ((text.takeWhile isSchemeChar).map Char.toLower), rest)
      | _ => none

def readEnding (special : Bool) (text : List Char) : Option String × Option String :=
  let fragment (rest : List Char) : Option String :=
    match rest with
    | '#' :: fragment => some (String.ofList (percentEncode fragmentEncodes fragment))
    | _ => none
  match text with
  | '?' :: rest =>
    let query := rest.takeWhile (· ≠ '#')
    (some (String.ofList (percentEncode (queryEncodes special) query)),
      fragment (rest.dropWhile (· ≠ '#')))
  | rest => (none, fragment rest)

def endsPath (c : Char) : Bool := c = '?' || c = '#'

def isSlash (special : Bool) (c : Char) : Bool := c = '/' || (special && c = '\\')

def endsAuthority (special : Bool) (c : Char) : Bool := isSlash special c || endsPath c

def readCredentials (text : List Char) : String × String :=
  let encode (part : List Char) := String.ofList (percentEncode credentialEncodes part)
  (encode (text.takeWhile (· ≠ ':')), encode ((text.dropWhile (· ≠ ':')).drop 1))

def splitHost (inBrackets : Bool) : List Char → List Char × List Char
  | [] => ([], [])
  | c :: rest =>
    if c = ':' && !inBrackets then ([], c :: rest)
    else
      let inBrackets' := if c = '[' then true else if c = ']' then false else inBrackets
      let (host, others) := splitHost inBrackets' rest
      (c :: host, others)

def readPort (text : List Char) : Except Error (Option Nat) :=
  match text with
  | [] => .ok none
  | digits =>
    match digits.foldlM (fun value c =>
        let next := 10 * value + (c.toNat - '0'.toNat)
        if c.isDigit && next ≤ 65535 then some next else none) 0 with
    | some port => .ok (some port)
    | none => .error .invalidPort

/-- The authority at the front of a text, which ends where `endsAuthority` says or where a
backslash ends the port, and the rest of the text. -/
def readAuthority (scheme : String) (text : List Char) :
    Except Error (Authority × List Char) := do
  let special := (kindOf scheme).isSpecial
  let part := text.takeWhile (!endsAuthority special ·)
  let hostPart := (part.reverse.takeWhile (· ≠ '@')).reverse
  let credentialPart := part.take (part.length - hostPart.length - 1)
  let hasAt := part.contains '@'
  let (username, password) := readCredentials credentialPart
  let hasCredentials := username ≠ "" || password ≠ ""
  let atEnd := (text.drop part.length) = []
  let (hostText, portPart) := splitHost false hostPart
  if hasAt && credentialPart = [] && hostPart = [] && !atEnd then throw .emptyHost
  if special && hostText = [] then throw .emptyHost
  let host ← parseHost special hostText
  if hostText = [] && portPart ≠ [] then throw .emptyHost
  let digits := (portPart.drop 1).takeWhile (· ≠ '\\')
  let port ← readPort digits
  if hostText = [] && hasCredentials then throw .emptyHost
  let written := if port = defaultPort? scheme then none else port
  let rest := (portPart.drop (digits.length + 1)) ++ text.drop part.length
  return ({ username, password, host, port := written }, rest)

def finish (scheme : String) (authority : Option Authority) (path : List String)
    (text : List Char) : Url :=
  let special := (kindOf scheme).isSpecial
  let pathText := text.takeWhile (!endsPath ·)
  let (query, fragment) := readEnding special (text.drop pathText.length)
  { scheme, authority, query, fragment
    path := .segments (addSegments false path (splitPath special pathText)) }

/-- What follows an authority. A special URL always has a path; in others it may be missing. -/
def finishAfterAuthority (scheme : String) (authority : Authority) (text : List Char) : Url :=
  let special := (kindOf scheme).isSpecial
  match text with
  | c :: rest =>
    if isSlash special c then finish scheme (some authority) [] rest
    else if special || !endsPath c then finish scheme (some authority) [] text
    else
      let (query, fragment) := readEnding special text
      { scheme, authority := some authority, path := .segments [], query, fragment }
  | [] =>
    { scheme, authority := some authority, query := none, fragment := none
      path := .segments (if special then [""] else []) }

def readAfterSlashes (scheme : String) (text : List Char) : Except Error Url := do
  let (authority, rest) ← readAuthority scheme text
  return finishAfterAuthority scheme authority rest

def localAuthority : Authority := ⟨"", "", .name "", none⟩

def opensWithDrive (text : List Char) : Bool :=
  isDriveLetter ((visible text).takeWhile (!endsAuthority true ·))

def finishFile (authority : Authority) (place : List (List Char) → List String)
    (text : List Char) : Url :=
  let pathText := text.takeWhile (!endsPath ·)
  let (query, fragment) := readEnding true (visible (text.drop pathText.length))
  { scheme := "file", authority := some authority, query, fragment
    path := .segments (withoutLeadingSlashes (place (splitPath true pathText))) }

def finishLocalFile (text : List Char) : Url := finishFile localAuthority (addSegments true []) text

/-- A file on a named host. A drive letter that comes first in the path puts it on no host. -/
def finishHostedFile (authority : Authority) (text : List Char) : Url :=
  let segments := splitPath true (text.takeWhile (!endsPath ·))
  if putsDriveFirst [] segments then finishLocalFile text
  else finishFile authority (addSegments true []) text

def fileHost (text : List Char) : Except Error Host :=
  if text = [] then .ok (.name "")
  else do
    let host ← parseHost true text
    return if host = .name "localhost" then .name "" else host

def readFileAfterSlashes (text : List Char) : Except Error Url := do
  let hostText := (visible text).takeWhile (!endsAuthority true ·)
  if isDriveLetter hostText then return finishLocalFile text
  let host ← fileHost hostText
  let rest := dropVisible hostText.length text
  if host = .name "" then return finishLocalFile rest
  let opensPath := (visible rest).head?.any (isSlash true)
  return finishHostedFile { localAuthority with host }
    (if opensPath then dropVisible 1 rest else rest)

def withEnding (base : Url) (text : List Char) : Url :=
  match text with
  | '?' :: _ =>
    let (query, fragment) := readEnding base.kind.isSpecial text
    { base with query, fragment }
  | '#' :: _ => { base with fragment := (readEnding base.kind.isSpecial text).2 }
  | _ => { base with fragment := none }

/-- A path from the root, which stays on the drive or the host of the base. -/
def readRootedFile (base? : Option Url) (text : List Char) : Url :=
  match base? with
  | none => finishLocalFile text
  | some base =>
    let drive := (base.segments.take 1).filter fun segment => isPlainDriveLetter segment.toList
    if opensWithDrive text then finishLocalFile text
    else if drive ≠ [] then finishFile localAuthority (addSegments true drive) text
    else finishFile (base.authority.getD localAuthority) (addSegments true []) text

def readFile (base? : Option Url) (text : List Char) : Except Error Url :=
  let seen := visible text
  if (seen.take 2).countP (isSlash true) = 2 then readFileAfterSlashes (dropVisible 2 text)
  else if seen.head?.any (isSlash true) then .ok (readRootedFile base? (dropVisible 1 text))
  else
    match base? with
    | none => .ok (finishLocalFile text)
    | some base =>
      if seen = [] || seen.head?.any endsPath then .ok (withEnding base seen)
      else if opensWithDrive text then .ok (finishLocalFile text)
      else .ok (finishFile (base.authority.getD localAuthority) (replaceLast base.segments) text)

def readRelative (base : Url) (text : List Char) : Except Error Url :=
  match text with
  | c :: rest =>
    if endsPath c then .ok (withEnding base text)
    else if isSlash true c then
      match rest with
      | d :: after =>
        if isSlash true d then
          if c = '/' && d = '/' then readAfterSlashes base.scheme after
          else readAfterSlashes base.scheme (text.dropWhile (isSlash true))
        else .ok (finish base.scheme base.authority [] rest)
      | [] => .ok (finish base.scheme base.authority [] rest)
    else .ok (finish base.scheme base.authority base.segments.dropLast text)
  | [] => .ok (withEnding base [])

def readOther (scheme : String) (text : List Char) : Except Error Url :=
  match text with
  | '/' :: '/' :: rest => readAfterSlashes scheme rest
  | '/' :: rest => .ok (finish scheme none [] rest)
  | _ =>
    let whole := text.takeWhile (!endsPath ·)
    let (query, fragment) := readEnding false (text.drop whole.length)
    .ok { scheme, authority := none, query, fragment
          path := .whole (String.ofList (percentEncode isControlOrWide whole)) }

def readWeb (base? : Option Url) (scheme : String) (text : List Char) : Except Error Url :=
  let slashes := text.takeWhile (isSlash true)
  match base? with
  | some base =>
    if slashes.length < 2 ∧ base.scheme = scheme then readRelative base text
    else readAfterSlashes scheme (text.drop slashes.length)
  | none => readAfterSlashes scheme (text.drop slashes.length)

def readReference (base? : Option Url) (text : List Char) : Except Error Url :=
  let seen := visible text
  match splitScheme? seen with
  | some (scheme, rest) =>
    match kindOf scheme with
    | .file =>
      readFile (base?.filter fun base => base.scheme = "file")
        (dropVisible (scheme.length + 1) text)
    | .web => readWeb base? scheme rest
    | .other => readOther scheme rest
  | none =>
    match base? with
    | none => .error .relativeWithoutBase
    | some base =>
      if seen.head? = some '#' then .ok (withEnding base seen)
      else
        match base.path with
        | .whole _ => .error .relativeToWhole
        | .segments _ =>
          if base.kind = .file then readFile (some base) text else readRelative base seen

def parse (text : String) : Except Error Url := readReference none (trimEdges text.toList)

def join (base : Url) (reference : String) : Except Error Url :=
  readReference (some base) (trimEdges reference.toList)

end PageLoad.Url

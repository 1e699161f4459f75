/-!
The targets of requests: a path with a query, an absolute address, a bare authority, or a star.
Only the query matters to who answers, but all of a target has to be well formed.
-/

namespace PageLoad.Http

inductive TargetError where
  | empty
  | invalidCharacter
  | invalidAuthority
  | invalidFormat
  | schemeTooLong
  | tooLong
  deriving DecidableEq, Repr

def TargetError.message : TargetError → String
  | .empty => "empty string"
  | .invalidCharacter => "invalid uri character"
  | .invalidAuthority => "invalid authority"
  | .invalidFormat => "invalid format"
  | .schemeTooLong => "scheme too long"
  | .tooLong => "uri too long"

structure Target where
  query : Option String
  deriving DecidableEq, Repr

namespace Target

def isPathChar (c : Char) : Bool :=
  let code := c.toNat
  code = 0x21 || code = 0x22 || (0x24 ≤ code && code ≤ 0x3B) || code = 0x3D ||
    (0x40 ≤ code && code ≤ 0x5F) || (0x61 ≤ code && code ≤ 0x7E) || 0x80 ≤ code

def isQueryChar (c : Char) : Bool :=
  let code := c.toNat
  code = 0x21 || (0x24 ≤ code && code ≤ 0x3B) || code = 0x3D || 0x3F ≤ code

def readPath (text : List Char) : Except TargetError Target :=
  let path := text.takeWhile fun c => c ≠ '?' && c ≠ '#'
  if !path.all isPathChar then .error .invalidCharacter
  else
    match text.drop path.length with
    | '?' :: rest =>
      let query := rest.takeWhile (· ≠ '#')
      if query.all isQueryChar then .ok ⟨some (String.ofList query)⟩
      else .error .invalidCharacter
    | _ => .ok ⟨none⟩

def isAuthorityChar (c : Char) : Bool :=
  c.isAlphanum || "!$&'()*+,-.:;=@[]_~".toList.contains c

structure AuthorityScan where
  colons : Nat
  opened : Bool
  closed : Bool
  percent : Bool
  afterAt : Bool

def AuthorityScan.start : AuthorityScan := ⟨0, false, false, false, false⟩

/-- Goes on by a character. Colons and percent signs before an at sign or a closing bracket do
not count. -/
def AuthorityScan.step (scan : AuthorityScan) (c : Char) : Except TargetError AuthorityScan :=
  let scan := { scan with afterAt := c = '@' }
  if c = ':' then
    if 8 ≤ scan.colons then .error .invalidAuthority
    else .ok { scan with colons := scan.colons + 1 }
  else if c = '[' then
    if scan.percent || scan.opened then .error .invalidAuthority
    else .ok { scan with opened := true }
  else if c = ']' then
    if !scan.opened || scan.closed then .error .invalidAuthority
    else .ok { scan with closed := true, colons := 0, percent := false }
  else if c = '@' then .ok { scan with colons := 0, percent := false }
  else if c = '%' then .ok { scan with percent := true }
  else if isAuthorityChar c then .ok scan
  else .error .invalidCharacter

def readAuthority (text : List Char) : Except TargetError (List Char) := do
  let authority := text.takeWhile fun c => c ≠ '/' && c ≠ '?' && c ≠ '#'
  let scan ← authority.foldlM AuthorityScan.step AuthorityScan.start
  if scan.opened ≠ scan.closed || 1 < scan.colons || scan.afterAt || scan.percent then
    .error .invalidAuthority
  else .ok authority

def isSchemeChar (c : Char) : Bool := c.isAlphanum || "+-.~".toList.contains c

def dropScheme? (text : List Char) : Except TargetError (Option (List Char)) :=
  let scheme := text.takeWhile isSchemeChar
  match text.drop scheme.length with
  | ':' :: '/' :: '/' :: rest =>
    if 64 < scheme.length then .error .schemeTooLong
    else if text.length ≤ 3 then .ok none
    else .ok (some rest)
  | _ => .ok none

def readFull (text : List Char) : Except TargetError Target := do
  match ← dropScheme? text with
  | none =>
    let authority ← readAuthority text
    if authority = text then .ok ⟨none⟩ else .error .invalidFormat
  | some [] => .error .empty
  | some rest =>
    let authority ← readAuthority rest
    if authority = [] then .error .invalidFormat else readPath (rest.drop authority.length)

def parse (text : String) : Except TargetError Target :=
  let chars := text.toList
  if 65534 < text.utf8ByteSize then .error .tooLong
  else
    match chars with
    | [] => .error .empty
    | '/' :: _ => readPath chars
    | ['*'] => .ok ⟨none⟩
    | [_] => do
      let authority ← readAuthority chars
      if authority = chars then .ok ⟨none⟩ else .error .invalidCharacter
    | _ => readFull chars

end Target

end PageLoad.Http

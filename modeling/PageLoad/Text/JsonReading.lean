import PageLoad.Text.CodePoints

/-!
Reading JSON objects whose members are texts, numbers and nulls, without white space between their
parts.
-/

namespace PageLoad.Text.Json

inductive Value where
  | text (value : String)
  | number (literal : String)
  | null
  deriving DecidableEq, Repr

def unescape? (c : Char) : Option Char :=
  if c = '"' || c = '\\' || c = '/' then some c
  else if c = 'b' then some '\x08'
  else if c = 'f' then some '\x0C'
  else if c = 'n' then some '\x0A'
  else if c = 'r' then some '\x0D'
  else if c = 't' then some '\x09'
  else none

def fourDigits? (a b c d : Char) : Option Nat := do
  let first ← hexDigit? a
  let second ← hexDigit? b
  let third ← hexDigit? c
  let fourth ← hexDigit? d
  return ((first * 16 + second) * 16 + third) * 16 + fourth

def consText (c : Char) (found : List Char × List Char) : List Char × List Char :=
  (c :: found.1, found.2)

/-- Reads a text up to the quote that ends it, and returns what follows. Halves of a pair of
surrogates are no characters. -/
def readText? : List Char → Option (List Char × List Char)
  | [] => none
  | '"' :: rest => some ([], rest)
  | '\\' :: 'u' :: a :: b :: c :: d :: rest =>
    match fourDigits? a b c d with
    | some code => if code.isValidChar then (readText? rest).map (consText (Char.ofNat code)) else none
    | none => none
  | '\\' :: c :: rest =>
    match unescape? c with
    | some meant => (readText? rest).map (consText meant)
    | none => none
  | c :: rest => if c.toNat < 0x20 || c = '\\' then none else (readText? rest).map (consText c)

theorem readText?_length {text : List Char} {found : List Char × List Char}
    (read : readText? text = some found) : found.2.length < text.length := by
  -- What is read behind a character ends where the whole text does.
  have longer {c : Char} {rest : List Char} {found : List Char × List Char}
      (ih : ∀ {found}, readText? rest = some found → found.2.length < rest.length)
      (mapped : (readText? rest).map (consText c) = some found) : found.2.length < rest.length := by
    obtain ⟨before, isRead, rfl⟩ := Option.map_eq_some_iff.mp mapped
    have shorter := ih isRead
    exact shorter
  fun_induction readText? text generalizing found with
  | case1 => cases read
  | case2 rest =>
    cases read
    exact Nat.lt_succ_self _
  | case3 _ _ _ _ rest _ _ _ ih | case6 _ rest _ _ _ ih | case9 _ rest _ _ _ _ ih =>
    have shorter := longer ih read
    simp only [List.length_cons]
    omega
  | case4 | case5 | case7 | case8 => cases read

def isExponent : List Char → Bool
  | [] => true
  | c :: rest =>
    let digits := match rest with
      | '+' :: digits | '-' :: digits => digits
      | digits => digits
    (c = 'e' || c = 'E') && digits ≠ [] && digits.all Char.isDigit

def isFraction : List Char → Bool
  | '.' :: rest =>
    rest.takeWhile Char.isDigit ≠ [] && isExponent (rest.dropWhile Char.isDigit)
  | rest => isExponent rest

def isNumber (text : List Char) : Bool :=
  let body := match text with
    | '-' :: rest => rest
    | rest => rest
  let whole := body.takeWhile Char.isDigit
  (whole = ['0'] || whole.head?.any (· ≠ '0')) && isFraction (body.dropWhile Char.isDigit)

def isNumberChar (c : Char) : Bool := c.isDigit || "+-.eE".toList.contains c

def readValue? : List Char → Option (Value × List Char)
  | '"' :: rest => (readText? rest).map fun (text, after) => (.text (String.ofList text), after)
  | 'n' :: 'u' :: 'l' :: 'l' :: rest => some (.null, rest)
  | text =>
    let literal := text.takeWhile isNumberChar
    if isNumber literal then
      some (.number (String.ofList literal), text.dropWhile isNumberChar)
    else none

def readMember? : List Char → Option ((String × Value) × List Char)
  | '"' :: rest =>
    match readText? rest with
    | some (name, ':' :: after) =>
      (readValue? after).map fun (value, rest) => ((String.ofList name, value), rest)
    | _ => none
  | _ => none

theorem readValue?_length {text : List Char} {found : Value × List Char}
    (read : readValue? text = some found) : found.2.length ≤ text.length := by
  unfold readValue? at read
  split at read
  next rest =>
    obtain ⟨⟨value, after⟩, isRead, rfl⟩ := Option.map_eq_some_iff.mp read
    exact Nat.le_succ_of_le (Nat.le_of_lt (readText?_length isRead))
  next =>
    cases read
    simp only [List.length_cons]
    omega
  next =>
    dsimp only at read
    split at read
    next =>
      cases read
      exact (List.dropWhile_suffix _).length_le
    next => cases read

theorem readMember?_length {text : List Char} {found : (String × Value) × List Char}
    (read : readMember? text = some found) : found.2.length < text.length := by
  unfold readMember? at read
  split at read
  next rest =>
    split at read
    next name after isName =>
      obtain ⟨⟨value, behind⟩, isValue, rfl⟩ := Option.map_eq_some_iff.mp read
      have first := readText?_length isName
      have second := readValue?_length isValue
      simp only [List.length_cons] at first second ⊢
      omega
    next => cases read
  next => cases read

def readMembers? (text : List Char) : Option (List (String × Value)) :=
  match _read : readMember? text with
  | some (member, ['\x7d']) => some [member]
  | some (member, ',' :: rest) => (readMembers? rest).map (member :: ·)
  | _ => none
termination_by text.length
decreasing_by
  have := readMember?_length _read
  simp only [List.length_cons] at this
  omega

def readObject? : List Char → Option (List (String × Value))
  | ['\x7b', '\x7d'] => some []
  | '\x7b' :: rest => readMembers? rest
  | _ => none

end PageLoad.Text.Json

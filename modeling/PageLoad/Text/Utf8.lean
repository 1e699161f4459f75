/-!
Reading bytes as UTF-8. Bytes that begin no character are gathered into pieces of junk, each as
long as it could still have become a character.
-/

namespace PageLoad.Text.Utf8

def isContinuation (b : UInt8) : Bool := 0x80 ≤ b && b ≤ 0xBF

def payload (b : UInt8) : Nat := b.toNat % 64

/-- Whether a byte may follow the lead of a three- or four-byte character. The narrower ranges
keep out overlong forms, surrogates and numbers past the last code point. -/
def followsLead (lead b : UInt8) : Bool :=
  if lead = 0xE0 then 0xA0 ≤ b && b ≤ 0xBF
  else if lead = 0xED then 0x80 ≤ b && b ≤ 0x9F
  else if lead = 0xF0 then 0x90 ≤ b && b ≤ 0xBF
  else if lead = 0xF4 then 0x80 ≤ b && b ≤ 0x8F
  else isContinuation b

/-- Reads one piece: a character, or `none` for junk, and the bytes after it. -/
def readPiece (lead : UInt8) (rest : List UInt8) : Option Char × List UInt8 :=
  if lead < 0x80 then (some (Char.ofNat lead.toNat), rest)
  else if 0xC2 ≤ lead && lead ≤ 0xDF then
    match rest with
    | second :: rest' =>
      if isContinuation second then
        (some (Char.ofNat (lead.toNat % 32 * 64 + payload second)), rest')
      else (none, rest)
    | [] => (none, rest)
  else if 0xE0 ≤ lead && lead ≤ 0xEF then
    match rest with
    | second :: rest' =>
      if followsLead lead second then
        match rest' with
        | third :: rest'' =>
          if isContinuation third then
            (some (Char.ofNat ((lead.toNat % 16 * 64 + payload second) * 64 + payload third)),
              rest'')
          else (none, rest')
        | [] => (none, rest')
      else (none, rest)
    | [] => (none, rest)
  else if 0xF0 ≤ lead && lead ≤ 0xF4 then
    match rest with
    | second :: rest' =>
      if followsLead lead second then
        match rest' with
        | third :: rest'' =>
          if isContinuation third then
            match rest'' with
            | fourth :: rest''' =>
              if isContinuation fourth then
                (some (Char.ofNat
                  (((lead.toNat % 8 * 64 + payload second) * 64 + payload third) * 64
                    + payload fourth)), rest''')
              else (none, rest'')
            | [] => (none, rest'')
          else (none, rest')
        | [] => (none, rest')
      else (none, rest)
    | [] => (none, rest)
  else (none, rest)

theorem readPiece_length (lead : UInt8) (rest : List UInt8) :
    (readPiece lead rest).2.length ≤ rest.length := by
  unfold readPiece
  repeat' split
  all_goals
    simp only [List.length_cons]
    omega

def pieces : List UInt8 → List (Option Char)
  | [] => []
  | lead :: rest => (readPiece lead rest).1 :: pieces (readPiece lead rest).2
termination_by bytes => bytes.length
decreasing_by
  have := readPiece_length lead rest
  simp only [List.length_cons]
  omega

def dropJunk (bytes : List UInt8) : List Char :=
  (pieces bytes).filterMap id

def replaceJunk (bytes : List UInt8) : List Char :=
  (pieces bytes).map (·.getD '\uFFFD')

inductive Flaw where
  | invalid (length index : Nat)
  | incomplete (index : Nat)
  deriving DecidableEq, Repr

def Flaw.message : Flaw → String
  | .invalid length index =>
    "invalid utf-8 sequence of " ++ toString length ++ " bytes from index " ++ toString index
  | .incomplete index => "incomplete utf-8 byte sequence from index " ++ toString index

def flawFrom (index : Nat) : List UInt8 → Option Flaw
  | [] => none
  | lead :: rest =>
    match (readPiece lead rest).1 with
    | some c => flawFrom (index + c.utf8Size) (readPiece lead rest).2
    | none =>
      let after := (readPiece lead rest).2
      if after = [] && 0xC2 ≤ lead && lead ≤ 0xF4 then some (.incomplete index)
      else some (.invalid (rest.length + 1 - after.length) index)
termination_by bytes => bytes.length
decreasing_by
  have := readPiece_length lead rest
  simp only [List.length_cons]
  omega

def decode (bytes : List UInt8) : Except Flaw (List Char) :=
  match flawFrom 0 bytes with
  | some flaw => .error flaw
  | none => .ok (dropJunk bytes)

def encode (text : List Char) : List UInt8 :=
  text.flatMap String.utf8EncodeChar

end PageLoad.Text.Utf8

import PageLoad.Html.CommentLexer
import PageLoad.Html.DoctypeLexer
import PageLoad.Html.RawLexer
import PageLoad.Html.TagLexer

/-!
Cutting markup into tokens, one piece at a time. What comes next may hang on the tree that the
tokens before have built: after some start tags the content is text, and only in foreign
elements are there character data sections.
-/

namespace PageLoad.Html

inductive LexMode where
  /-- Markup. With `single`, as after a carriage return, a text takes one character only. -/
  | markup (single : Bool)
  | raw (kind : RawKind) (name : List Char)
  | plain (single : Bool)
  | cutOff
  deriving DecidableEq

def endsRun (c : Char) : Bool :=
  c = '\x00' || c = '&' || c = '<' || c = '\n' || c = '\r'

def textTokens (text : List Char) : List Token := if text = [] then [] else [.text text]

/-- A reference in markup. Each character it stands for is a text of its own, and so are the
characters that were put back. After a carriage return that was looked at, one character is. -/
def readReferenceText (rest : List Char) : Lexed × LexMode :=
  let reference := readReference false rest
  let value := if reference.value = [] then ['&'] else reference.value
  let values := value.map fun c => .text [c]
  let after := reference.rest rest
  let putBack := (after.take reference.putBack).takeWhile (!endsRun ·)
  match reference.seenBreak rest with
  | .none =>
    (⟨reference.faults, values ++ textTokens putBack, after.drop putBack.length⟩, .markup false)
  | .dropped => (⟨reference.faults, values, after⟩, .markup true)
  | .kept =>
    (⟨reference.faults, values ++ textTokens (putBack.take 1) ++ textTokens (putBack.drop 1),
      after.drop putBack.length⟩, .markup false)

def splitAtClose : List Char → List Char × Option (List Char)
  | ']' :: ']' :: '>' :: rest => ([], some rest)
  | c :: rest =>
    let (data, after) := splitAtClose rest
    (c :: data, after)
  | [] => ([], none)

def readCharacterData (text : List Char) : Lexed × LexMode :=
  let (data, after) := splitAtClose text
  let runs := ((withLineFeeds data).splitOn '\x00').map textTokens
  let tokens := List.intercalate [.nul] runs
  match after with
  | some rest => (⟨[], tokens, rest⟩, .markup false)
  | none => (⟨[], tokens, []⟩, .cutOff)

def readDeclaration (foreign : Bool) (text : List Char) : Lexed × LexMode :=
  match text with
  | '-' :: '-' :: rest => (readComment .start [] rest, .markup false)
  | _ =>
    match dropWord? "doctype".toList text with
    | some rest => (readDoctype rest, .markup false)
    | none =>
      if foreign && text.take 7 = "[CDATA[".toList then readCharacterData (text.drop 7)
      else (readBogusComment [.badCharacter] text, .markup false)

def readEndTag (text : List Char) : Lexed :=
  match text with
  | [] => ⟨[.unexpectedEnd], [.text ['<'], .text ['/']], []⟩
  | '>' :: rest => ⟨[.badCharacter], [], rest⟩
  | c :: rest =>
    if c.isAlpha then readTag (TagDraft.start true) .name text
    else readBogusComment [.badCharacter] rest

def readMarkup (foreign : Bool) (text : List Char) : Lexed × LexMode :=
  match text with
  | [] => (⟨[.unexpectedEnd], [.text ['<']], []⟩, .markup false)
  | '!' :: rest => readDeclaration foreign rest
  | '/' :: rest => (readEndTag rest, .markup false)
  | '?' :: _ => (readBogusComment [.badCharacter] text, .markup false)
  | c :: _ =>
    if c.isAlpha then (readTag (TagDraft.start false) .name text, .markup false)
    else (⟨[.badCharacter], [.text ['<']], text⟩, .markup true)

def dropByteOrderMark : List Char → List Char
  | '\uFEFF' :: rest => rest
  | text => text

/-- The content of an element whose content is text, and its end tag. What follows a script is
read as a text of its own. -/
def readRaw (kind : RawKind) (name text : List Char) : Lexed :=
  let (faults, rest) := match kind with
    | .verbatim => scanText false name [] text
    | .withReferences => scanText true name [] text
    | .script => scanScript name .plain [] text
  match rest with
  | _ :: _ :: tag =>
    let lexed := readTag (TagDraft.start true) .name tag
    { lexed with
      faults := faults.reverse ++ lexed.faults
      rest := if kind = .script then dropByteOrderMark lexed.rest else lexed.rest }
  | _ => ⟨faults.reverse, [], []⟩

def readPlain (single : Bool) (text : List Char) : Lexed × LexMode :=
  match text with
  | '\x00' :: rest => (⟨[.badCharacter], [.text ['\uFFFD']], rest⟩, .plain false)
  | '\n' :: rest => (⟨[], [.text ['\n']], rest⟩, .plain false)
  | '\r' :: '\n' :: rest | '\r' :: rest => (⟨[], [.text ['\n']], rest⟩, .plain true)
  | _ =>
    let isRun (c : Char) : Bool := c ≠ '\x00' && c ≠ '\n' && c ≠ '\r'
    let run := if single then text.take 1 else text.takeWhile isRun
    (⟨[], [.text run], text.drop run.length⟩, .plain false)

def readPiece (mode : LexMode) (foreign : Bool) (text : List Char) : Lexed × LexMode :=
  match mode with
  | .raw kind name => (readRaw kind name text, .markup false)
  | .plain single => readPlain single text
  | .cutOff => (⟨[], [], []⟩, .cutOff)
  | .markup single =>
    match text with
    | '<' :: rest => readMarkup foreign rest
    | '&' :: rest => readReferenceText rest
    | '\x00' :: rest => (⟨[.badCharacter], [.nul], rest⟩, .markup false)
    | '\n' :: rest => (⟨[], [.text ['\n']], rest⟩, .markup false)
    | '\r' :: '\n' :: rest | '\r' :: rest => (⟨[], [.text ['\n']], rest⟩, .markup true)
    | _ =>
      let run := if single then text.take 1 else text.takeWhile (!endsRun ·)
      (⟨[], [.text run], text.drop run.length⟩, .markup false)

end PageLoad.Html

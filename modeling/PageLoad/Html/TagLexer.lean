import PageLoad.Html.Token

/-!
Reading a tag from its name to the `>` that ends it. Until then its characters, its attributes and
the problems with it are held last first.
-/

namespace PageLoad.Html

inductive TagPlace where
  | name
  | beforeAttribute
  | attributeName
  | afterAttributeName
  | beforeValue
  | quotedValue (quote : Char)
  | plainValue
  | afterValue
  | afterSlash
  deriving DecidableEq

def TagPlace.isQuoted : TagPlace → Bool
  | .quotedValue _ => true
  | _ => false

structure TagDraft where
  isEnd : Bool
  name : List Char
  attributes : List Attribute
  attributeName : List Char
  rawValue : List Char
  value : List Char
  selfClosing : Bool
  faults : List Fault

namespace TagDraft

def start (isEnd : Bool) : TagDraft :=
  ⟨isEnd, [], [], [], [], [], false, []⟩

def report (draft : TagDraft) (fault : Fault) : TagDraft :=
  { draft with faults := fault :: draft.faults }

def endValue (draft : TagDraft) (quoted : Bool) (stop : List Char) : TagDraft :=
  let (value, faults) :=
    decodeValue quoted draft.rawValue.length (draft.rawValue.reverse ++ stop)
  { draft with rawValue := [], value, faults := faults.reverse ++ draft.faults }

/-- Completes the attribute that has been read. A second one of the same name is dropped. -/
def endAttribute (draft : TagDraft) : TagDraft :=
  if draft.attributeName = [] then draft
  else
    let name := String.ofList draft.attributeName.reverse
    let cleared := { draft with attributeName := [], value := [] }
    if draft.attributes.any (·.name = name) then cleared.report .duplicateAttribute
    else { cleared with attributes := ⟨name, String.ofList draft.value⟩ :: draft.attributes }

def nameChar (c : Char) : Char := if c = '\x00' then '\uFFFD' else c.toLower

def startAttribute (draft : TagDraft) (c : Char) : TagDraft :=
  { draft.endAttribute with attributeName := [nameChar c] }

def reportIn (draft : TagDraft) (unexpected : String) (c : Char) : TagDraft :=
  if unexpected.toList.contains c then draft.report .badCharacter else draft

def beforeAttribute (draft : TagDraft) (c : Char) : TagDraft × Option TagPlace :=
  if isSpace c then (draft, some .beforeAttribute)
  else if c = '/' then (draft, some .afterSlash)
  else if c = '>' then (draft, none)
  else ((draft.reportIn "\x00\"'<=" c).startAttribute c, some .attributeName)

/-- One character of a tag: the draft after it and the next place, none at the end. -/
def step (draft : TagDraft) (place : TagPlace) (c : Char) : TagDraft × Option TagPlace :=
  match place with
  | .name =>
    if isSpace c then (draft, some .beforeAttribute)
    else if c = '/' then (draft, some .afterSlash)
    else if c = '>' then (draft, none)
    else
      let draft := draft.reportIn "\x00" c
      ({ draft with name := nameChar c :: draft.name }, some .name)
  | .beforeAttribute => draft.beforeAttribute c
  | .attributeName =>
    if isSpace c then (draft, some .afterAttributeName)
    else if c = '/' then (draft, some .afterSlash)
    else if c = '=' then (draft, some .beforeValue)
    else if c = '>' then (draft, none)
    else
      let draft := draft.reportIn "\x00\"'<" c
      ({ draft with attributeName := nameChar c :: draft.attributeName }, some .attributeName)
  | .afterAttributeName =>
    if isSpace c then (draft, some .afterAttributeName)
    else if c = '/' then (draft, some .afterSlash)
    else if c = '=' then (draft, some .beforeValue)
    else if c = '>' then (draft, none)
    else ((draft.reportIn "\x00\"'<" c).startAttribute c, some .attributeName)
  | .beforeValue =>
    if isSpace c then (draft, some .beforeValue)
    else if c = '"' || c = '\'' then (draft, some (.quotedValue c))
    else if c = '>' then (draft.report .badCharacter, none)
    else ({ draft with rawValue := [c] }, some .plainValue)
  | .quotedValue quote =>
    if c = quote then (draft.endValue true [c], some .afterValue)
    else ({ draft with rawValue := c :: draft.rawValue }, some (.quotedValue quote))
  | .plainValue =>
    if isSpace c && !(c = '\r' && dropsBreak draft.rawValue) then
      (draft.endValue false [c], some .beforeAttribute)
    else if c = '>' then (draft.endValue false [c], none)
    else ({ draft with rawValue := c :: draft.rawValue }, some .plainValue)
  | .afterValue =>
    if isSpace c then (draft, some .beforeAttribute)
    else if c = '/' then (draft, some .afterSlash)
    else if c = '>' then (draft, none)
    else (draft.report .badCharacter).beforeAttribute c
  | .afterSlash =>
    if c = '>' then ({ draft with selfClosing := true }, none)
    else (draft.report .badCharacter).beforeAttribute c

def finish (draft : TagDraft) (rest : List Char) : Lexed :=
  let draft := draft.endAttribute
  let tag : Tag :=
    ⟨String.ofList draft.name.reverse, draft.attributes.reverse, draft.selfClosing⟩
  if draft.isEnd then
    let withAttributes := if tag.attributes = [] then draft else draft.report .endTagAttributes
    let reported :=
      if tag.selfClosing then withAttributes.report .selfClosingEndTag else withAttributes
    ⟨reported.faults.reverse, [.endTag tag], rest⟩
  else ⟨draft.faults.reverse, [.startTag tag], rest⟩

end TagDraft

def readTag (draft : TagDraft) (place : TagPlace) : List Char → Lexed
  | [] => ⟨((draft.endValue place.isQuoted []).report .unexpectedEnd).faults.reverse, [], []⟩
  | c :: rest =>
    match draft.step place c with
    | (next, some place') => readTag next place' rest
    | (next, none) => next.finish rest

end PageLoad.Html

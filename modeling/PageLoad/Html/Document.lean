import PageLoad.Html.DoctypeRules
import PageLoad.Html.Lexer
import PageLoad.Html.Rules.Foreign

/-!
Reading a document: its text is cut into pieces, and the tokens of each piece go through the
rules before the next is cut.
-/

namespace PageLoad.Html
open Rules

structure Document where
  elements : List Element
  faults : List Fault

def Mode.splitsText : Mode → Bool
  | .initial | .beforeHtml | .beforeHead | .inHead | .afterHead | .inColumnGroup | .afterBody
  | .inFrameset | .afterFrameset | .afterAfterBody | .afterAfterFrameset => true
  | _ => false

def Token.closesItself : Token → Bool
  | .startTag tag => tag.selfClosing
  | _ => false

namespace Builder

/-- Reads a token by the rules of one mode after another, until one has done with it. A tag
may ask for what follows to be read in another way. `steps` bounds the number of modes. -/
def settle (steps : Nat) (builder : Builder) (token : Token) : Builder × Option LexMode :=
  match steps with
  | 0 => (builder, none)
  | steps + 1 =>
    let step := if isForeign builder token then inForeign builder token
      else inCurrentMode builder token
    match step with
    | (next, .done) =>
      (if token.closesItself then next.report .unacknowledgedSelfClosing else next, none)
    | (next, .acknowledged) => (next, none)
    | (next, .again mode token) => settle steps (next.inMode mode) token
    | (next, .raw kind name) => (next, some (.raw kind name))
    | (next, .plain) => (next, some (.plain false))

/-- More modes than a token can go through: it changes to a few of them for each open element
and template, and to a few more. -/
def patience (builder : Builder) : Nat :=
  4 * (builder.stack.length + builder.templateModes.length) + 32

def alike (c other : Char) : Bool := isBlankText [other] = isBlankText [c]

def settleText (builder : Builder) : List Char → Builder
  | [] => builder
  | c :: rest =>
    if builder.mode.splitsText && !isForeign builder (.text (c :: rest)) then
      let run := c :: rest.takeWhile (alike c)
      let next := (builder.settle builder.patience (.text run)).1
      settleText next (rest.dropWhile (alike c))
    else (builder.settle builder.patience (.text (c :: rest))).1
termination_by text => text.length
decreasing_by
  have shorter := (rest.dropWhile_suffix (alike c)).length_le
  simp only [List.length_cons]
  omega

def readDoctype (builder : Builder) (doctype : Doctype) : Builder :=
  if builder.mode = .initial then
    let reported := if doctype.isAllowed then builder else builder.report .badDoctype
    { reported with quirks := doctype.hasQuirks, mode := .beforeHtml }
  else builder.report .lateDoctype

/-- Reads a token. A line feed right after some start tags is dropped. -/
def read (builder : Builder) (token : Token) : Builder × Option LexMode :=
  let skips := builder.skipNewline
  let builder := { builder with skipNewline := false }
  match token with
  | .doctype doctype => (builder.readDoctype doctype, none)
  | .text text =>
    let kept := match skips, text with
      | true, '\n' :: rest => rest
      | _, text => text
    (builder.settleText kept, none)
  | token => builder.settle builder.patience token

def take (builder : Builder) (lexed : Lexed) (mode : LexMode) : Builder × LexMode :=
  let reported := match lexed.faults with
    | [] => builder
    | faults => { faults.foldl report builder with skipNewline := false }
  lexed.tokens.foldl (fun (builder, mode) token =>
    let (next, change) := builder.read token
    (next, change.getD mode)) (reported, mode)

/-- Reads a text to its end. Each piece takes a character at least, so `pieces` need not be
more than there are characters. -/
def readAll (pieces : Nat) (mode : LexMode) (builder : Builder) (text : List Char) : Builder :=
  match pieces, text with
  | _, [] | 0, _ =>
    let ended := if mode = .cutOff then builder.report .unexpectedEnd else builder
    (ended.read .endOfFile).1
  | pieces + 1, text =>
    let (lexed, next) := readPiece mode (inForeignElement builder) text
    let (taken, mode) := builder.take lexed next
    readAll pieces mode taken lexed.rest

end Builder

def Document.parse (text : List Char) : Document :=
  let characters := dropByteOrderMark text
  let built := Builder.start.readAll characters.length (.markup false) characters
  ⟨built.elements.toList, built.faults.reverse⟩

end PageLoad.Html

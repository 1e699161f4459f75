import PageLoad.Html.OpenElements
import PageLoad.Html.RawLexer

/-!
The state in which markup is made into elements, and the operations on it that the rules for
single tags are made of. What grows while a document is read is held last first: the innermost of
the open elements, the latest of the formatting elements and problems, and of the text in a table
that waits until it is known whether it shows anything.
-/

namespace PageLoad.Html

inductive Mode where
  | initial
  | beforeHtml
  | beforeHead
  | inHead
  | afterHead
  | inBody
  | text
  | inTable
  | inTableText
  | inCaption
  | inColumnGroup
  | inTableBody
  | inRow
  | inCell
  | inSelect
  | inSelectInTable
  | inTemplate
  | afterBody
  | inFrameset
  | afterFrameset
  | afterAfterBody
  | afterAfterFrameset
  deriving DecidableEq, Repr

/-- A formatting element that is opened again after it was closed by another one's end, or a
border that this does not cross. -/
inductive Formatting where
  | marker
  | element (id : Nat) (tag : Tag)
  deriving DecidableEq

structure Builder where
  /-- The elements in the order of their creation, by which they are numbered. -/
  elements : Array Element
  mode : Mode
  returnMode : Mode
  templateModes : List Mode
  pendingText : List (List Char)
  quirks : Bool
  stack : List OpenElement
  formatting : List Formatting
  head : Option OpenElement
  form : Option Nat
  framesetOk : Bool
  skipNewline : Bool
  faults : List Fault

/-- What a rule leaves to be done. -/
inductive Outcome where
  | done
  | acknowledged
  | again (mode : Mode) (token : Token)
  | raw (kind : RawKind) (name : List Char)
  | plain

abbrev Step := Builder × Outcome

namespace Builder

def start : Builder where
  elements := #[]
  mode := .initial
  returnMode := .inBody
  templateModes := []
  pendingText := []
  quirks := false
  stack := []
  formatting := []
  head := none
  form := none
  framesetOk := true
  skipNewline := false
  faults := []

def report (builder : Builder) (fault : Fault) : Builder :=
  { builder with faults := fault :: builder.faults }

def done (builder : Builder) : Step := (builder, .done)

def acknowledged (builder : Builder) : Step := (builder, .acknowledged)

def again (builder : Builder) (mode : Mode) (token : Token) : Step :=
  (builder, .again mode token)

def inMode (builder : Builder) (mode : Mode) : Builder := { builder with mode }

def unexpected (builder : Builder) : Builder := builder.report .unexpectedToken

def refuseFrameset (builder : Builder) : Builder := { builder with framesetOk := false }

/-! ### Open elements -/

def pop (builder : Builder) : Builder := { builder with stack := builder.stack.drop 1 }

def push (builder : Builder) (element : OpenElement) : Builder :=
  { builder with stack := element :: builder.stack }

def currentIs (builder : Builder) (wanted : OpenElement → Bool) : Bool :=
  (builder.stack.head?.map wanted).getD false

def currentNamed (builder : Builder) (name : String) : Bool :=
  builder.currentIs (·.isNamed name)

def hasOpen (builder : Builder) (name : String) : Bool :=
  builder.stack.any (·.isNamed name)

def hasInScope (builder : Builder) (scope : OpenElement → Bool) (name : String) : Bool :=
  inScope scope (·.isNamed name) builder.stack

def closeTo (builder : Builder) (wanted : OpenElement → Bool) : Builder :=
  { builder with stack := builder.stack.dropWhile (!wanted ·) }

def closeThrough (builder : Builder) (wanted : OpenElement → Bool) : Builder :=
  (builder.closeTo wanted).pop

def closeThroughNamed (builder : Builder) (name : String) : Builder :=
  builder.closeThrough (·.isNamed name)

def expectToClose (builder : Builder) (name : String) : Builder :=
  let closed := builder.closeThroughNamed name
  if builder.currentNamed name then closed else closed.report .unexpectedOpenElement

def closeImplied (builder : Builder) (names : List String) : Builder :=
  { builder with stack := builder.stack.dropWhile (·.isAmong names) }

def closeImpliedExcept (builder : Builder) (name : String) : Builder :=
  builder.closeImplied (impliedEndNames.filter (· ≠ name))

def closeParagraph (builder : Builder) : Builder :=
  (builder.closeImpliedExcept "p").expectToClose "p"

def closeParagraphInScope (builder : Builder) : Builder :=
  if builder.hasInScope buttonScope "p" then builder.closeParagraph else builder

def removeFromStack (builder : Builder) (id : Nat) : Builder :=
  { builder with stack := builder.stack.eraseP (·.id = id) }

/-! ### Elements -/

def insertIn (builder : Builder) (space : Namespace) (tag : Tag) (opened : Bool) : Builder :=
  let id := builder.elements.size
  let inserted :=
    { builder with elements := builder.elements.push ⟨space, tag.name, tag.attributes⟩ }
  if opened then inserted.push ⟨id, space, tag.name⟩ else inserted

def insert (builder : Builder) (tag : Tag) : Builder := builder.insertIn .html tag true

def insertVoid (builder : Builder) (tag : Tag) : Builder := builder.insertIn .html tag false

/-- An element that the markup implies but does not name. -/
def insertImplied (builder : Builder) (name : String) : Builder :=
  builder.insert ⟨name, [], false⟩

def insertRoot (builder : Builder) (attributes : List Attribute) : Builder :=
  builder.insert ⟨"html", attributes, false⟩

def insertRaw (builder : Builder) (tag : Tag) (kind : RawKind) : Step :=
  let inserted := { builder.insert tag with returnMode := builder.mode, mode := .text }
  (inserted, .raw kind tag.name.toList)

def hasBody (builder : Builder) : Bool :=
  match builder.stack.reverse with
  | _ :: second :: _ => second.isNamed "body"
  | _ => false

def reportOpenAtEnd (builder : Builder) : Builder :=
  let allowed := ["dd", "dt", "li", "optgroup", "option", "p", "rp", "rt", "tbody", "td", "tfoot",
    "th", "thead", "tr", "body", "html"]
  if builder.stack.all (·.isAmong allowed) then builder else builder.report .openAtBodyEnd

def modeFor (builder : Builder) : List OpenElement → Mode
  | [] => .inBody
  | element :: below =>
    let last := below = []
    if element.space ≠ .html then modeFor builder below
    else
      match element.name with
      | "select" =>
        match below.find? (·.isAmong ["template", "table"]) with
        | some found => if found.name = "table" then .inSelectInTable else .inSelect
        | none => .inSelect
      | "td" | "th" => if last then modeFor builder below else .inCell
      | "tr" => .inRow
      | "tbody" | "thead" | "tfoot" => .inTableBody
      | "caption" => .inCaption
      | "colgroup" => .inColumnGroup
      | "table" => .inTable
      | "template" => builder.templateModes.headD .inBody
      | "head" => if last then modeFor builder below else .inHead
      | "body" => .inBody
      | "frameset" => .inFrameset
      | "html" => if builder.head.isNone then .beforeHead else .afterHead
      | _ => modeFor builder below

def resetMode (builder : Builder) : Builder := builder.inMode (builder.modeFor builder.stack)

end Builder

end PageLoad.Html

import PageLoad.Html.Rules.Body

/-!
Tables and their parts. What has no place in a table is read as in the body.
-/

namespace PageLoad.Html.Rules
open Builder

def tablePartNames : List String := ["tbody", "tfoot", "thead"]

def tableStartNames : List String :=
  ["caption", "col", "colgroup", "tbody", "td", "tfoot", "th", "thead", "tr"]

/-- Text in a table waits until it is known whether it shows anything. -/
def tableCharacters (builder : Builder) (token : Token) : Step :=
  if builder.currentIs (·.isAmong ["table", "tbody", "tfoot", "thead", "tr"]) then
    again { builder with returnMode := builder.mode } .inTableText token
  else inBody (builder.report .tableCharacters) token

def openTablePart (builder : Builder) (tag : Tag) (mode : Mode) : Step :=
  done (((builder.closeTo tableScope).insert tag).inMode mode)

def tableStart (builder : Builder) (tag : Tag) : Step :=
  let name := tag.name
  let token := Token.startTag tag
  if name = "caption" then
    done (((builder.closeTo tableScope).addMarker.insert tag).inMode .inCaption)
  else if name = "colgroup" then openTablePart builder tag .inColumnGroup
  else if name = "col" then
    again ((builder.closeTo tableScope).insertImplied "colgroup") .inColumnGroup token
  else if tablePartNames.contains name then openTablePart builder tag .inTableBody
  else if name = "td" || name = "th" || name = "tr" then
    again ((builder.closeTo tableScope).insertImplied "tbody") .inTableBody token
  else if name = "table" then
    let builder := builder.unexpected
    if builder.hasInScope tableScope "table" then
      let closed := builder.closeThroughNamed "table"
      again closed (closed.modeFor closed.stack) token
    else done builder
  else if name = "style" || name = "script" || name = "template" then startMetadata builder tag
  else if name = "input" then
    let builder := builder.unexpected
    if isHiddenInput tag then acknowledged (builder.insertVoid tag)
    else inBody builder token
  else if name = "form" then
    let builder := builder.unexpected
    if !builder.hasOpen "template" && builder.form.isNone then
      let id := builder.elements.size
      done { builder.insertVoid tag with form := some id }
    else done builder
  else inBody builder.unexpected token

def tableEnd (builder : Builder) (tag : Tag) : Step :=
  let name := tag.name
  if name = "table" then
    if builder.hasInScope tableScope "table" then
      done (builder.closeThroughNamed "table").resetMode
    else done builder.unexpected
  else if ["body", "caption", "col", "colgroup", "html", "tbody", "td", "tfoot", "th", "thead",
      "tr"].contains name then done builder.unexpected
  else if name = "template" then endTemplate builder
  else inBody builder.unexpected (.endTag tag)

def inTable (builder : Builder) (token : Token) : Step :=
  match token with
  | .nul | .text _ => tableCharacters builder token
  | .startTag tag => tableStart builder tag
  | .endTag tag => tableEnd builder tag
  | .endOfFile => bodyEndOfFile builder
  | .comment | .doctype _ => done builder

/-- Takes up text that waited: it is read as in the body unless it is blank. -/
def takeUpText (builder : Builder) : Builder :=
  let texts := builder.pendingText.reverse
  let builder := { builder with pendingText := [] }
  if texts.all isBlankText then builder
  else
    texts.foldl (fun builder text => (inBody builder (.text text)).1)
      (builder.report .tableText)

def inTableText (builder : Builder) (token : Token) : Step :=
  match token with
  | .nul => done builder.unexpected
  | .text text => done { builder with pendingText := text :: builder.pendingText }
  | _ => again (takeUpText builder) builder.returnMode token

def leaveCaption (builder : Builder) (next : Builder → Step) : Step :=
  if builder.hasInScope tableScope "caption" then
    next ((builder.closeImplied impliedEndNames).expectToClose "caption").clearToMarker
  else done builder.unexpected

def inCaption (builder : Builder) (token : Token) : Step :=
  match token with
  | .startTag tag =>
    if tableStartNames.contains tag.name then leaveCaption builder (again · .inTable token)
    else inBody builder token
  | .endTag tag =>
    if tag.name = "caption" then leaveCaption builder fun left => done (left.inMode .inTable)
    else if tag.name = "table" then leaveCaption builder (again · .inTable token)
    else if ["body", "col", "colgroup", "html", "tbody", "td", "tfoot", "th", "thead",
        "tr"].contains tag.name then done builder.unexpected
    else inBody builder token
  | _ => inBody builder token

def inColumnGroup (builder : Builder) (token : Token) : Step :=
  let leave :=
    if builder.currentNamed "colgroup" then again builder.pop .inTable token
    else done builder.unexpected
  match token with
  | .comment => done builder
  | .text text => if isBlankText text then done builder else leave
  | .startTag tag =>
    if tag.name = "html" then repeatRoot builder
    else if tag.name = "col" then acknowledged (builder.insertVoid tag)
    else if tag.name = "template" then startMetadata builder tag
    else leave
  | .endTag tag =>
    if tag.name = "colgroup" then
      if builder.currentNamed "colgroup" then done (builder.pop.inMode .inTable)
      else done builder.unexpected
    else if tag.name = "col" then done builder.unexpected
    else if tag.name = "template" then endTemplate builder
    else leave
  | .endOfFile => bodyEndOfFile builder
  | _ => leave

def leaveTableBody (builder : Builder) : Builder := (builder.closeTo tableBodyContext).pop

def inTableBody (builder : Builder) (token : Token) : Step :=
  let leave :=
    if inScope tableScope (·.isAmong ["table", "tbody", "tfoot"]) builder.stack then
      again (leaveTableBody builder) .inTable token
    else done builder.unexpected
  match token with
  | .startTag tag =>
    if tag.name = "tr" then
      done (((builder.closeTo tableBodyContext).insert tag).inMode .inRow)
    else if tag.name = "th" || tag.name = "td" then
      again ((builder.unexpected.closeTo tableBodyContext).insertImplied "tr") .inRow token
    else if ["caption", "col", "colgroup", "tbody", "tfoot", "thead"].contains tag.name then leave
    else inTable builder token
  | .endTag tag =>
    if tablePartNames.contains tag.name then
      if builder.hasInScope tableScope tag.name then
        done ((leaveTableBody builder).inMode .inTable)
      else done builder.unexpected
    else if tag.name = "table" then leave
    else if ["body", "caption", "col", "colgroup", "html", "td", "th", "tr"].contains tag.name then
      done builder.unexpected
    else inTable builder token
  | _ => inTable builder token

def leaveRow (builder : Builder) : Builder := (builder.closeTo tableRowContext).pop

def inRow (builder : Builder) (token : Token) : Step :=
  let leave :=
    if builder.hasInScope tableScope "tr" then again (leaveRow builder) .inTableBody token
    else done builder.unexpected
  match token with
  | .startTag tag =>
    if tag.name = "th" || tag.name = "td" then
      done (((builder.closeTo tableRowContext).insert tag).addMarker.inMode .inCell)
    else if ["caption", "col", "colgroup", "tbody", "tfoot", "thead", "tr"].contains tag.name then
      leave
    else inTable builder token
  | .endTag tag =>
    if tag.name = "tr" then
      if builder.hasInScope tableScope "tr" then done ((leaveRow builder).inMode .inTableBody)
      else done builder.unexpected
    else if tag.name = "table" then leave
    else if tablePartNames.contains tag.name then
      if builder.hasInScope tableScope tag.name then
        if builder.hasInScope tableScope "tr" then again (leaveRow builder) .inTableBody token
        else done builder
      else done builder.unexpected
    else if ["body", "caption", "col", "colgroup", "html", "td", "th"].contains tag.name then
      done builder.unexpected
    else inTable builder token
  | _ => inTable builder token

def isCell (element : OpenElement) : Bool := element.isAmong ["td", "th"]

def leaveCell (builder : Builder) : Builder :=
  let closed := builder.closeImplied impliedEndNames
  let reported := if closed.currentIs isCell then closed else closed.report .cellNotCurrent
  (reported.closeThrough isCell).clearToMarker

def inCell (builder : Builder) (token : Token) : Step :=
  match token with
  | .startTag tag =>
    if tableStartNames.contains tag.name then
      if inScope tableScope isCell builder.stack then again (leaveCell builder) .inRow token
      else done builder.unexpected
    else inBody builder token
  | .endTag tag =>
    if tag.name = "td" || tag.name = "th" then
      if builder.hasInScope tableScope tag.name then
        let closed := (builder.closeImplied impliedEndNames).expectToClose tag.name
        done (closed.clearToMarker.inMode .inRow)
      else done builder.unexpected
    else if ["body", "caption", "col", "colgroup", "html"].contains tag.name then
      done builder.unexpected
    else if ["table", "tbody", "tfoot", "thead", "tr"].contains tag.name then
      if builder.hasInScope tableScope tag.name then again (leaveCell builder) .inRow token
      else done builder.unexpected
    else inBody builder token
  | _ => inBody builder token

end PageLoad.Html.Rules

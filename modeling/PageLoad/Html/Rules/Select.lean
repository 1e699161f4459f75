import PageLoad.Html.Rules.Table

/-!
Lists of options, templates, and what stands after the body or in place of it.
-/

namespace PageLoad.Html.Rules
open Builder

def leaveSelect (builder : Builder) (token : Token) : Step :=
  let closed := builder.closeThroughNamed "select"
  again closed (closed.modeFor closed.stack) token

def popIf (builder : Builder) (name : String) : Builder :=
  if builder.currentNamed name then builder.pop else builder

def inSelect (builder : Builder) (token : Token) : Step :=
  let selectOpen := builder.hasInScope selectScope "select"
  match token with
  | .nul => done builder.unexpected
  | .text _ | .comment => done builder
  | .startTag tag =>
    let name := tag.name
    if name = "html" then repeatRoot builder
    else if name = "option" then done ((popIf builder "option").insert tag)
    else if name = "optgroup" then
      done ((popIf (popIf builder "option") "optgroup").insert tag)
    else if name = "hr" then
      acknowledged ((popIf (popIf builder "option") "optgroup").insertVoid tag)
    else if name = "select" then
      let builder := builder.unexpected
      if selectOpen then done (builder.closeThroughNamed "select").resetMode else done builder
    else if name = "input" || name = "keygen" || name = "textarea" then
      let builder := builder.unexpected
      if selectOpen then leaveSelect builder token else done builder
    else if name = "script" || name = "template" then startMetadata builder tag
    else done builder.unexpected
  | .endTag tag =>
    let name := tag.name
    if name = "optgroup" then
      let inGroup := match builder.stack with
        | first :: second :: _ => first.isNamed "option" && second.isNamed "optgroup"
        | _ => false
      let builder := if inGroup then builder.pop else builder
      if builder.currentNamed "optgroup" then done builder.pop else done builder.unexpected
    else if name = "option" then
      if builder.currentNamed "option" then done builder.pop else done builder.unexpected
    else if name = "select" then
      if selectOpen then done (builder.closeThroughNamed "select").resetMode
      else done builder.unexpected
    else if name = "template" then endTemplate builder
    else done builder.unexpected
  | .endOfFile => bodyEndOfFile builder
  | .doctype _ => done builder.unexpected

def tableTagNames : List String :=
  ["caption", "table", "tbody", "tfoot", "thead", "tr", "td", "th"]

def inSelectInTable (builder : Builder) (token : Token) : Step :=
  match token with
  | .startTag tag =>
    if tableTagNames.contains tag.name then leaveSelect builder.unexpected token
    else inSelect builder token
  | .endTag tag =>
    if tableTagNames.contains tag.name then
      let builder := builder.unexpected
      if builder.hasInScope tableScope tag.name then leaveSelect builder token else done builder
    else inSelect builder token
  | _ => inSelect builder token

def templateTo (builder : Builder) (mode : Mode) (token : Token) : Step :=
  again { builder with templateModes := mode :: builder.templateModes.drop 1 } mode token

def inTemplate (builder : Builder) (token : Token) : Step :=
  match token with
  | .text _ | .comment => inBody builder token
  | .startTag tag =>
    let name := tag.name
    if metadataNames.contains name then startMetadata builder tag
    else if ["caption", "colgroup", "tbody", "tfoot", "thead"].contains name then
      templateTo builder .inTable token
    else if name = "col" then templateTo builder .inColumnGroup token
    else if name = "tr" then templateTo builder .inTableBody token
    else if name = "td" || name = "th" then templateTo builder .inRow token
    else templateTo builder .inBody token
  | .endTag tag =>
    if tag.name = "template" then endTemplate builder else done builder.unexpected
  | .endOfFile => templateEnd builder
  | .nul | .doctype _ => done builder.unexpected

/-- After the body. Whatever comes belongs to the body all the same. -/
def afterBody (builder : Builder) (token : Token) : Step :=
  let reopen := again builder.unexpected .inBody token
  match token with
  | .comment | .endOfFile => done builder
  | .text text => if isBlankText text then inBody builder token else reopen
  | .startTag tag => if tag.name = "html" then repeatRoot builder else reopen
  | .endTag tag => if tag.name = "html" then done (builder.inMode .afterAfterBody) else reopen
  | _ => reopen

def afterAfterBody (builder : Builder) (token : Token) : Step :=
  let reopen := again builder.unexpected .inBody token
  match token with
  | .comment | .endOfFile => done builder
  | .text text => if isBlankText text then inBody builder token else reopen
  | .startTag tag => if tag.name = "html" then repeatRoot builder else reopen
  | _ => reopen

def inFrameset (builder : Builder) (token : Token) : Step :=
  match token with
  | .comment => done builder
  | .text text => if isBlankText text then done builder else done builder.unexpected
  | .startTag tag =>
    if tag.name = "html" then repeatRoot builder
    else if tag.name = "frameset" then done (builder.insert tag)
    else if tag.name = "frame" then acknowledged (builder.insertVoid tag)
    else if tag.name = "noframes" then startMetadata builder tag
    else done builder.unexpected
  | .endTag tag =>
    if tag.name = "frameset" && builder.stack.length ≠ 1 then
      let popped := builder.pop
      if popped.currentNamed "frameset" then done popped else done (popped.inMode .afterFrameset)
    else done builder.unexpected
  | .endOfFile => if builder.stack.length = 1 then done builder else done builder.unexpected
  | _ => done builder.unexpected

def afterFrameset (builder : Builder) (token : Token) : Step :=
  match token with
  | .comment | .endOfFile => done builder
  | .text text => if isBlankText text then done builder else done builder.unexpected
  | .startTag tag =>
    if tag.name = "html" then repeatRoot builder
    else if tag.name = "noframes" then startMetadata builder tag
    else done builder.unexpected
  | .endTag tag =>
    if tag.name = "html" then done (builder.inMode .afterAfterFrameset)
    else done builder.unexpected
  | _ => done builder.unexpected

def afterAfterFrameset (builder : Builder) (token : Token) : Step :=
  match token with
  | .comment | .endOfFile => done builder
  | .text text => if isBlankText text then inBody builder token else done builder.unexpected
  | .startTag tag =>
    if tag.name = "html" then repeatRoot builder
    else if tag.name = "noframes" then startMetadata builder tag
    else done builder.unexpected
  | _ => done builder.unexpected

end PageLoad.Html.Rules

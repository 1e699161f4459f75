import PageLoad.Html.Rules.Head

/-!
The content of the body. Most other modes come here for what they have no rule for.
-/

namespace PageLoad.Html.Rules
open Builder

def blockNames : List String :=
  ["address", "article", "aside", "blockquote", "center", "details", "dialog", "dir", "div", "dl",
   "fieldset", "figcaption", "figure", "footer", "header", "hgroup", "main", "menu", "nav", "ol",
   "p", "search", "section", "summary", "ul"]

def blockEndNames : List String :=
  ["address", "article", "aside", "blockquote", "button", "center", "details", "dialog", "dir",
   "div", "dl", "fieldset", "figcaption", "figure", "footer", "header", "hgroup", "listing",
   "main", "menu", "nav", "ol", "pre", "search", "section", "summary", "ul"]

def formattingNames : List String :=
  ["b", "big", "code", "em", "font", "i", "s", "small", "strike", "strong", "tt", "u"]

def strayNames : List String :=
  ["caption", "col", "colgroup", "frame", "head", "tbody", "td", "tfoot", "th", "thead", "tr"]

def isHiddenInput (tag : Tag) : Bool :=
  (tag.attribute? "type").any fun value => value.toLower = "hidden"

def bodyText (builder : Builder) (text : List Char) : Builder :=
  let reopened := builder.reconstruct
  if isBlankText text then reopened else reopened.refuseFrameset

def startItem (builder : Builder) (tag : Tag) : Builder :=
  let closing := if tag.name = "li" then ["li"] else ["dd", "dt"]
  let stops (element : OpenElement) : Bool :=
    isSpecial element && !element.isAmong ["address", "div", "p"]
  let builder := builder.refuseFrameset
  let found := builder.stack.find? fun element => element.isAmong closing || stops element
  let closed := match found with
    | some element =>
      if element.isAmong closing then
        (builder.closeImpliedExcept element.name).expectToClose element.name
      else builder
    | none => builder
  closed.closeParagraphInScope.insert tag

def closeOuterLink (builder : Builder) : Builder :=
  match (sinceMarker builder.formatting).find? (·.2.name = "a") with
  | none => builder
  | some (id, _) => ((builder.unexpected.endFormatting "a").removeFormatting id).removeFromStack id

def startForeign (builder : Builder) (space : Namespace) (tag : Tag) : Step :=
  if tag.selfClosing then acknowledged (builder.insertIn space tag false)
  else done (builder.insertIn space tag true)

def startVoid (builder : Builder) (tag : Tag) : Step :=
  acknowledged (builder.reconstruct.insertVoid tag).refuseFrameset

/-- A table ends a paragraph only in a document without quirks. -/
def startTable (builder : Builder) (tag : Tag) : Builder :=
  let closed := if builder.quirks then builder else builder.closeParagraphInScope
  (closed.insert tag).refuseFrameset.inMode .inTable

def startForm (builder : Builder) (tag : Tag) : Builder :=
  let inTemplate := builder.hasOpen "template"
  if builder.form.isSome && !inTemplate then builder.report .nestedForm
  else
    let inserted := builder.closeParagraphInScope.insert tag
    if inTemplate then inserted
    else { inserted with form := inserted.stack.head?.map (·.id) }

def startButton (builder : Builder) (tag : Tag) : Builder :=
  let closed :=
    if builder.hasInScope defaultScope "button" then
      ((builder.report .nestedButton).closeImplied impliedEndNames).closeThroughNamed "button"
    else builder
  (closed.reconstruct.insert tag).refuseFrameset

def startNobr (builder : Builder) (tag : Tag) : Builder :=
  let reopened := builder.reconstruct
  let closed :=
    if reopened.hasInScope defaultScope "nobr" then
      ((reopened.report .nestedNobr).endFormatting "nobr").reconstruct
    else reopened
  closed.insertFormatting tag

def startHeading (builder : Builder) (tag : Tag) : Builder :=
  let closed := builder.closeParagraphInScope
  let closed :=
    if closed.currentIs (·.isAmong headingNames) then (closed.report .nestedHeading).pop
    else closed
  closed.insert tag

def startRuby (builder : Builder) (tag : Tag) (ends : Builder → Builder)
    (parents : List String) : Builder :=
  let closed := if builder.hasInScope defaultScope "ruby" then ends builder else builder
  let reported := if closed.currentIs (·.isAmong parents) then closed else closed.unexpected
  reported.insert tag

/-- A frameset takes the place of the body, as long as the body shows nothing. -/
def startFrameset (builder : Builder) (tag : Tag) : Builder :=
  let builder := builder.unexpected
  if builder.framesetOk && builder.hasBody then
    let cleared := { builder with stack := builder.stack.getLast?.toList }
    (cleared.insert tag).inMode .inFrameset
  else builder

/-- A second start tag of the body opens nothing, but asks for the body. -/
def repeatBody (builder : Builder) : Builder :=
  let builder := builder.unexpected
  if builder.hasBody && !builder.hasOpen "template" then builder.refuseFrameset else builder

def startSelect (builder : Builder) (tag : Tag) : Builder :=
  let inTable := match builder.mode with
    | .inTable | .inCaption | .inTableBody | .inRow | .inCell => true
    | _ => false
  (builder.reconstruct.insert tag).refuseFrameset.inMode
    (if inTable then .inSelectInTable else .inSelect)

def startOption (builder : Builder) (tag : Tag) : Builder :=
  let closed := if builder.currentNamed "option" then builder.pop else builder
  closed.reconstruct.insert tag

def bodyStart (builder : Builder) (tag : Tag) : Step :=
  let name := tag.name
  if name = "html" then repeatRoot builder
  else if metadataNames.contains name then startMetadata builder tag
  else if name = "body" then done (repeatBody builder)
  else if name = "frameset" then done (startFrameset builder tag)
  else if blockNames.contains name then done (builder.closeParagraphInScope.insert tag)
  else if headingNames.contains name then done (startHeading builder tag)
  else if name = "pre" || name = "listing" then
    let inserted := (builder.closeParagraphInScope.insert tag).refuseFrameset
    done { inserted with skipNewline := true }
  else if name = "form" then done (startForm builder tag)
  else if name = "li" || name = "dd" || name = "dt" then done (startItem builder tag)
  else if name = "plaintext" then (builder.closeParagraphInScope.insert tag, .plain)
  else if name = "button" then done (startButton builder tag)
  else if name = "a" then done ((closeOuterLink builder).reconstruct.insertFormatting tag)
  else if formattingNames.contains name then done (builder.reconstruct.insertFormatting tag)
  else if name = "nobr" then done (startNobr builder tag)
  else if name = "applet" || name = "marquee" || name = "object" then
    done (builder.reconstruct.insert tag).addMarker.refuseFrameset
  else if name = "table" then done (startTable builder tag)
  else if ["area", "br", "embed", "img", "keygen", "wbr"].contains name then
    startVoid builder tag
  else if name = "input" then
    if isHiddenInput tag then acknowledged (builder.reconstruct.insertVoid tag)
    else startVoid builder tag
  else if name = "param" || name = "source" || name = "track" then
    acknowledged (builder.insertVoid tag)
  else if name = "hr" then
    acknowledged (builder.closeParagraphInScope.insertVoid tag).refuseFrameset
  else if name = "image" then startVoid builder.unexpected { tag with name := "img" }
  else if name = "textarea" then
    { builder.refuseFrameset with skipNewline := true }.insertRaw tag .withReferences
  else if name = "xmp" then
    builder.closeParagraphInScope.reconstruct.refuseFrameset.insertRaw tag .verbatim
  else if name = "iframe" then builder.refuseFrameset.insertRaw tag .verbatim
  else if name = "noembed" || name = "noscript" then builder.insertRaw tag .verbatim
  else if name = "select" then done (startSelect builder tag)
  else if name = "optgroup" || name = "option" then done (startOption builder tag)
  else if name = "rb" || name = "rtc" then
    done (startRuby builder tag (·.closeImplied impliedEndNames) ["ruby"])
  else if name = "rp" || name = "rt" then
    done (startRuby builder tag (·.closeImpliedExcept "rtc") ["rtc", "ruby"])
  else if name = "math" then startForeign builder .mathml tag
  else if name = "svg" then startForeign builder .svg tag
  else if strayNames.contains name then done builder.unexpected
  else done (builder.reconstruct.insert tag)

def endForm (builder : Builder) : Builder :=
  if builder.hasOpen "template" then
    if !builder.hasInScope defaultScope "form" then builder.report .formNotInScope
    else
      let closed := builder.closeImplied impliedEndNames
      let reported := if closed.currentNamed "form" then closed else closed.report .formNotCurrent
      reported.closeThroughNamed "form"
  else
    match builder.form with
    | none => builder.report .noForm
    | some id =>
      let builder := { builder with form := none }
      if !inScope defaultScope (·.id = id) builder.stack then builder.report .formNotInScope
      else
        let closed := builder.closeImplied impliedEndNames
        let removed := closed.removeFromStack id
        if closed.currentIs (·.id = id) then removed else removed.report .formNotCurrent

def endBlock (builder : Builder) (name : String) : Builder :=
  if !builder.hasInScope defaultScope name then builder.unexpected
  else (builder.closeImplied impliedEndNames).expectToClose name

def endParagraph (builder : Builder) : Builder :=
  let opened :=
    if builder.hasInScope buttonScope "p" then builder
    else (builder.report .noParagraph).insertImplied "p"
  opened.closeParagraph

def endItem (builder : Builder) (name : String) : Builder :=
  let scope := if name = "li" then listItemScope else defaultScope
  if builder.hasInScope scope name then (builder.closeImpliedExcept name).expectToClose name
  else builder.report .noMatchingTag

def endHeading (builder : Builder) (name : String) : Builder :=
  let isHeading (element : OpenElement) : Bool := element.isAmong headingNames
  if inScope defaultScope isHeading builder.stack then
    let closed := builder.closeImplied impliedEndNames
    let reported := if closed.currentNamed name then closed else closed.report .wrongHeading
    reported.closeThrough isHeading
  else builder.report .noHeading

def bodyEnd (builder : Builder) (tag : Tag) : Step :=
  let name := tag.name
  if name = "template" then endTemplate builder
  else if name = "body" then
    if builder.hasInScope defaultScope "body" then
      done (builder.reportOpenAtEnd.inMode .afterBody)
    else done (builder.report .bodyNotInScope)
  else if name = "html" then
    if builder.hasInScope defaultScope "body" then
      again builder.reportOpenAtEnd .afterBody (.endTag tag)
    else done (builder.report .bodyNotInScopeForHtml)
  else if blockEndNames.contains name then done (endBlock builder name)
  else if name = "form" then done (endForm builder)
  else if name = "p" then done (endParagraph builder)
  else if name = "li" || name = "dd" || name = "dt" then done (endItem builder name)
  else if headingNames.contains name then done (endHeading builder name)
  else if name = "a" || name = "nobr" || formattingNames.contains name then
    done (builder.endFormatting name)
  else if name = "applet" || name = "marquee" || name = "object" then
    if builder.hasInScope defaultScope name then done (endBlock builder name).clearToMarker
    else done builder.unexpected
  else if name = "br" then startVoid builder.unexpected { tag with attributes := [] }
  else done (builder.closeAny name)

def templateEnd (builder : Builder) : Step :=
  if !builder.hasOpen "template" then done builder
  else
    let left := leaveTemplate (builder.unexpected.closeThroughNamed "template")
    again left left.mode .endOfFile

def bodyEndOfFile (builder : Builder) : Step :=
  if builder.templateModes = [] then done builder.reportOpenAtEnd else templateEnd builder

def inBody (builder : Builder) (token : Token) : Step :=
  match token with
  | .nul => done builder.unexpected
  | .text text => done (bodyText builder text)
  | .startTag tag => bodyStart builder tag
  | .endTag tag => bodyEnd builder tag
  | .endOfFile => bodyEndOfFile builder
  | .comment | .doctype _ => done builder

def inText (builder : Builder) (token : Token) : Step :=
  match token with
  | .endOfFile => again builder.unexpected.pop builder.returnMode token
  | .endTag _ => done (builder.pop.inMode builder.returnMode)
  | _ => done builder

end PageLoad.Html.Rules

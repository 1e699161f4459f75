import PageLoad.Html.Formatting

/-!
What stands before the body: the root element, the head and its content, and what comes between
the head and the body.
-/

namespace PageLoad.Html.Rules
open Builder

def isBlankText (text : List Char) : Bool := text.all isSpace

def metadataNames : List String :=
  ["base", "basefont", "bgsound", "link", "meta", "noframes", "script", "style", "template",
   "title"]

def impliedEndTags : List String := ["head", "body", "html", "br"]

def repeatRoot (builder : Builder) : Step := done builder.unexpected

def startMetadata (builder : Builder) (tag : Tag) : Step :=
  if ["base", "basefont", "bgsound", "link", "meta"].contains tag.name then
    acknowledged (builder.insertVoid tag)
  else if tag.name = "title" then builder.insertRaw tag .withReferences
  else if tag.name = "script" then builder.insertRaw tag .script
  else if tag.name = "template" then
    let opened := (builder.insert tag).addMarker.refuseFrameset
    done { opened with mode := .inTemplate, templateModes := .inTemplate :: opened.templateModes }
  else builder.insertRaw tag .verbatim

def leaveTemplate (builder : Builder) : Builder :=
  let cleared := builder.clearToMarker
  { cleared with templateModes := cleared.templateModes.drop 1 }.resetMode

def endTemplate (builder : Builder) : Step :=
  if !builder.hasOpen "template" then done builder.unexpected
  else
    done (leaveTemplate ((builder.closeImplied thoroughImpliedEndNames).expectToClose "template"))

/-- Before anything else. A document without a type is one with quirks. -/
def initial (builder : Builder) (token : Token) : Step :=
  match token with
  | .comment => done builder
  | .text text =>
    if isBlankText text then done builder
    else again { builder.unexpected with quirks := true } .beforeHtml token
  | _ => again { builder.unexpected with quirks := true } .beforeHtml token

def beforeHtml (builder : Builder) (token : Token) : Step :=
  let implied := again (builder.insertRoot []) .beforeHead token
  match token with
  | .comment => done builder
  | .text text => if isBlankText text then done builder else implied
  | .startTag tag =>
    if tag.name = "html" then done ((builder.insertRoot tag.attributes).inMode .beforeHead)
    else implied
  | .endTag tag => if impliedEndTags.contains tag.name then implied else done builder.unexpected
  | _ => implied

def openHead (builder : Builder) (tag : Tag) : Builder :=
  let opened := builder.insert tag
  { opened with head := opened.stack.head? }

def beforeHead (builder : Builder) (token : Token) : Step :=
  let implied := again (openHead builder ⟨"head", [], false⟩) .inHead token
  match token with
  | .comment => done builder
  | .text text => if isBlankText text then done builder else implied
  | .startTag tag =>
    if tag.name = "html" then repeatRoot builder
    else if tag.name = "head" then done ((openHead builder tag).inMode .inHead)
    else implied
  | .endTag tag => if impliedEndTags.contains tag.name then implied else done builder.unexpected
  | _ => implied

def inHead (builder : Builder) (token : Token) : Step :=
  let implied := again builder.pop .afterHead token
  match token with
  | .comment => done builder
  | .text text => if isBlankText text then done builder else implied
  | .startTag tag =>
    if tag.name = "html" then repeatRoot builder
    else if metadataNames.contains tag.name || tag.name = "noscript" then
      startMetadata builder tag
    else if tag.name = "head" then done builder.unexpected
    else implied
  | .endTag tag =>
    if tag.name = "head" then done (builder.pop.inMode .afterHead)
    else if tag.name = "template" then endTemplate builder
    else if impliedEndTags.contains tag.name then implied
    else done builder.unexpected
  | _ => implied

/-- Metadata after the head goes into the head all the same. -/
def startLateMetadata (builder : Builder) (tag : Tag) : Step :=
  let builder := builder.unexpected
  match builder.head with
  | none => startMetadata builder tag
  | some head =>
    let (inserted, outcome) := startMetadata (builder.push head) tag
    (inserted.removeFromStack head.id, outcome)

def afterHead (builder : Builder) (token : Token) : Step :=
  let implied := again (builder.insertImplied "body") .inBody token
  match token with
  | .comment => done builder
  | .text text => if isBlankText text then done builder else implied
  | .startTag tag =>
    if tag.name = "html" then repeatRoot builder
    else if tag.name = "body" then done ((builder.insert tag).refuseFrameset.inMode .inBody)
    else if tag.name = "frameset" then done ((builder.insert tag).inMode .inFrameset)
    else if metadataNames.contains tag.name then startLateMetadata builder tag
    else if tag.name = "head" then done builder.unexpected
    else implied
  | .endTag tag =>
    if tag.name = "template" then endTemplate builder
    else if impliedEndTags.contains tag.name && tag.name ≠ "head" then implied
    else done builder.unexpected
  | _ => implied

end PageLoad.Html.Rules

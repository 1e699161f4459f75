import PageLoad.Html.Rules.Select

/-!
Formulas and drawings inside a document, and the choice of the rules for a token.
-/

namespace PageLoad.Html.Rules
open Builder

/-- Elements that never stand in a formula or drawing: their tags end it. -/
def breakoutNames : List String :=
  ["b", "big", "blockquote", "body", "br", "center", "code", "dd", "div", "dl", "dt", "em",
   "embed", "h1", "h2", "h3", "h4", "h5", "h6", "head", "hr", "i", "img", "li", "listing", "menu",
   "meta", "nobr", "ol", "p", "pre", "ruby", "s", "small", "span", "strong", "strike", "sub",
   "sup", "table", "tt", "u", "ul", "var"]

def drawingNames : List String :=
  ["altGlyph", "altGlyphDef", "altGlyphItem", "animateColor", "animateMotion",
   "animateTransform", "clipPath", "feBlend", "feColorMatrix", "feComponentTransfer",
   "feComposite", "feConvolveMatrix", "feDiffuseLighting", "feDisplacementMap",
   "feDistantLight", "feDropShadow", "feFlood", "feFuncA", "feFuncB", "feFuncG", "feFuncR",
   "feGaussianBlur", "feImage", "feMerge", "feMergeNode", "feMorphology", "feOffset",
   "fePointLight", "feSpecularLighting", "feSpotLight", "feTile", "feTurbulence",
   "foreignObject", "glyphRef", "linearGradient", "radialGradient", "textPath"]

def drawingName (name : String) : String :=
  (drawingNames.find? fun capitals => capitals.toLower = name).getD name

def isForeignText (element : OpenElement) : Bool :=
  element.space = .html || element.holdsFormulaText || element.holdsHtml

def inCurrentMode (builder : Builder) (token : Token) : Step :=
  match builder.mode with
  | .initial => initial builder token
  | .beforeHtml => beforeHtml builder token
  | .beforeHead => beforeHead builder token
  | .inHead => inHead builder token
  | .afterHead => afterHead builder token
  | .inBody => inBody builder token
  | .text => inText builder token
  | .inTable => inTable builder token
  | .inTableText => inTableText builder token
  | .inCaption => inCaption builder token
  | .inColumnGroup => inColumnGroup builder token
  | .inTableBody => inTableBody builder token
  | .inRow => inRow builder token
  | .inCell => inCell builder token
  | .inSelect => inSelect builder token
  | .inSelectInTable => inSelectInTable builder token
  | .inTemplate => inTemplate builder token
  | .afterBody => afterBody builder token
  | .inFrameset => inFrameset builder token
  | .afterFrameset => afterFrameset builder token
  | .afterAfterBody => afterAfterBody builder token
  | .afterAfterFrameset => afterAfterFrameset builder token

def breakOut (builder : Builder) (token : Token) : Step :=
  inCurrentMode (builder.unexpected.closeTo isForeignText) token

def foreignStart (builder : Builder) (tag : Tag) : Step :=
  match builder.stack with
  | [] => done builder
  | current :: _ =>
    let named := if current.space = .svg then { tag with name := drawingName tag.name } else tag
    startForeign builder current.space named

/-- An end tag inside a formula or drawing: it closes the innermost element of its name, in
either case, as long as no element of HTML stands before that. -/
def foreignEnd (builder : Builder) (tag : Tag) (first : Bool) : List OpenElement → Step
  | [] => done builder
  | [_] => done builder
  | element :: rest =>
    if !first && element.space = .html then inCurrentMode builder (.endTag tag)
    else if element.name.toLower = tag.name.toLower then done { builder with stack := rest }
    else foreignEnd (if first then builder.unexpected else builder) tag false rest

def inForeign (builder : Builder) (token : Token) : Step :=
  match token with
  | .nul => done builder.unexpected
  | .text text => done (if isBlankText text then builder else builder.refuseFrameset)
  | .startTag tag =>
    let isStyledFont := tag.name = "font" &&
      ["color", "face", "size"].any fun name => (tag.attribute? name).isSome
    if breakoutNames.contains tag.name || isStyledFont then breakOut builder token
    else foreignStart builder tag
  | .endTag tag =>
    if tag.name = "br" || tag.name = "p" then breakOut builder token
    else foreignEnd builder tag true builder.stack
  | _ => done builder

def isForeign (builder : Builder) (token : Token) : Bool :=
  match builder.stack, token with
  | _, .endOfFile => false
  | [], _ => false
  | current :: _, token =>
    if current.space = .html then false
    else
      match token with
      | .text _ | .nul => !(current.holdsFormulaText || current.holdsHtml)
      | .startTag tag =>
        let staysInFormula := tag.name = "mglyph" || tag.name = "malignmark"
        let opensDrawing :=
          current.space = .mathml && current.name = "annotation-xml" && tag.name = "svg"
        !((current.holdsFormulaText && !staysInFormula) || current.holdsHtml || opensDrawing)
      | _ => true

def inForeignElement (builder : Builder) : Bool :=
  builder.currentIs (·.space ≠ .html)

end PageLoad.Html.Rules

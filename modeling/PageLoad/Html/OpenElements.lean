import PageLoad.Html.Element

/-!
The elements that are open, innermost first, and the sets of names that decide how far a search
among them goes.
-/

namespace PageLoad.Html

structure OpenElement where
  id : Nat
  space : Namespace
  name : String
  deriving DecidableEq, Repr

namespace OpenElement

def isNamed (name : String) (element : OpenElement) : Bool :=
  element.space = .html && element.name = name

def isAmong (names : List String) (element : OpenElement) : Bool :=
  element.space = .html && names.contains element.name

def holdsFormulaText (element : OpenElement) : Bool :=
  element.space = .mathml && ["mi", "mo", "mn", "ms", "mtext"].contains element.name

def holdsHtml (element : OpenElement) : Bool :=
  element.space = .svg && ["foreignObject", "desc", "title"].contains element.name

end OpenElement

open OpenElement

def headingNames : List String := ["h1", "h2", "h3", "h4", "h5", "h6"]

def impliedEndNames : List String :=
  ["dd", "dt", "li", "option", "optgroup", "p", "rb", "rp", "rt", "rtc"]

def thoroughImpliedEndNames : List String :=
  impliedEndNames ++ ["caption", "colgroup", "tbody", "td", "tfoot", "th", "thead", "tr"]

/-- Elements that the end tag of a formatting element does not reach past. -/
def specialNames : List String :=
  ["address", "applet", "area", "article", "aside", "base", "basefont", "bgsound", "blockquote",
   "body", "br", "button", "caption", "center", "col", "colgroup", "dd", "details", "dir", "div",
   "dl", "dt", "embed", "fieldset", "figcaption", "figure", "footer", "form", "frame", "frameset",
   "h1", "h2", "h3", "h4", "h5", "h6", "head", "header", "hgroup", "hr", "html", "iframe", "img",
   "input", "isindex", "li", "link", "listing", "main", "marquee", "menu", "meta", "nav",
   "noembed", "noframes", "noscript", "object", "ol", "p", "param", "plaintext", "pre", "script",
   "section", "select", "source", "style", "summary", "table", "tbody", "td", "template",
   "textarea", "tfoot", "th", "thead", "title", "tr", "track", "ul", "wbr", "xmp"]

def isSpecial (element : OpenElement) : Bool := element.isAmong specialNames

def defaultScope (element : OpenElement) : Bool :=
  element.isAmong
      ["applet", "caption", "html", "table", "td", "th", "marquee", "object", "template"] ||
    element.holdsFormulaText || element.holdsHtml

def listItemScope (element : OpenElement) : Bool :=
  defaultScope element || element.isAmong ["ol", "ul"]

def buttonScope (element : OpenElement) : Bool :=
  defaultScope element || element.isNamed "button"

def tableScope (element : OpenElement) : Bool := element.isAmong ["html", "table", "template"]

def selectScope (element : OpenElement) : Bool := !element.isAmong ["optgroup", "option"]

def tableBodyContext (element : OpenElement) : Bool :=
  element.isAmong ["tbody", "tfoot", "thead", "template", "html"]

def tableRowContext (element : OpenElement) : Bool :=
  element.isAmong ["tr", "template", "html"]

def inScope (scope wanted : OpenElement → Bool) : List OpenElement → Bool
  | [] => false
  | element :: rest =>
    if wanted element then true
    else if scope element then false
    else inScope scope wanted rest

end PageLoad.Html

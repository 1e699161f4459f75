import PageLoad.Html.Document
import PageLoad.Text.Quoted
import PageLoad.Text.Utf8
import PageLoad.Url.Parse

/-!
The assets of a page: what its images, scripts, links and embedded objects name as their source.
-/

namespace PageLoad.Html

def assetNames : List String := ["img", "script", "link", "embed"]

def Element.source? (element : Element) : Option String :=
  if assetNames.contains element.name then
    (element.attributes.find? (·.name = "src")).map (·.value)
  else none

inductive PageFault where
  | markup (fault : Fault)
  | unresolvable (source : String) (reason : Url.Error)

def PageFault.isUnresolvable : PageFault → Bool
  | .unresolvable _ _ => true
  | .markup _ => false

def PageFault.message : PageFault → String
  | .markup fault => fault.message
  | .unresolvable source reason =>
    "unresolvable src " ++ Text.quote source ++ ": " ++ reason.message

/-- The assets of a page in the order of their tags, and the problems met: those of the markup, then
those of sources that name no URL. -/
structure Assets where
  urls : List Url
  faults : List PageFault

def Document.sources (document : Document) : List String :=
  document.elements.filterMap Element.source?

def Assets.resolve (base : Url) (sources : List String) : Assets where
  urls := sources.filterMap fun source => (base.join source).toOption
  faults := sources.filterMap fun source =>
    match base.join source with
    | .ok _ => none
    | .error reason => some (.unresolvable source reason)

/-- The assets of the page that some bytes are. Bytes that are no text are passed over. -/
def Assets.ofPage (base : Url) (body : List UInt8) : Assets :=
  let document := Document.parse (Text.Utf8.dropJunk body)
  let resolved := Assets.resolve base document.sources
  { resolved with faults := document.faults.map .markup ++ resolved.faults }

end PageLoad.Html

import PageLoad.Html.Assets
import PageLoad.Text.Blank

/-!
A resource that has been fetched, and the URLs that it loads.
-/

namespace PageLoad.Fetch

structure Page where
  url : Url
  contentType : String
  body : List UInt8
  elapsed : Nat

def fallbackContentType : String := "text/plain"

/-- The first entry of a content type header, without parameters and in lower case. -/
def mimeEssence (header : List Char) : String :=
  let entry := header.takeWhile fun c => c ≠ ';' && c ≠ ','
  String.ofList ((Text.trim entry).map Char.toLower)

def contentTypeOf (header : Option (List Char)) : String :=
  match header.map mimeEssence with
  | none | some "" => fallbackContentType
  | some essence => essence

namespace Page

def isHtml (page : Page) : Bool := page.contentType = "text/html"

/-- The URLs that a page loads, in order and with repeats. Only HTML names any. -/
def links (page : Page) : List String :=
  if page.isHtml then (Html.Assets.ofPage page.url page.body).urls.map (·.text) else []

end Page

end PageLoad.Fetch

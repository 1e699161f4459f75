import PageLoad.Fetch.Failure
import PageLoad.Fetch.Page

/-!
What fetching a URL gives, and sites, which give it for the URLs that they list.
-/

namespace PageLoad.Fetch

inductive Outcome where
  | page (page : Page)
  | failed (failure : Failure)
  | crashed (crash : Crash)

def Outcome.links : Outcome → List String
  | .page found => found.links
  | _ => []

abbrev Site := List (String × Outcome)

namespace Site

def fetch (site : Site) (url : String) : Outcome :=
  match site.lookup url with
  | some outcome => outcome
  | none => .failed (.status url .notFound)

/-- How many links there are in all, and one for the way in. -/
def size (site : Site) : Nat :=
  site.foldr (fun entry links => entry.2.links.length + links) 1

end Site

end PageLoad.Fetch

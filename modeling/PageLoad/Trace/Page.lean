import PageLoad.Trace.Asset

/-!
A recorded page: its assets, and which of them loads which. It does not matter in what order
the assets were recorded, as long as their ids differ.
-/

namespace PageLoad.Trace

structure Page where
  records : List Asset
  deriving DecidableEq, Repr

namespace Page

def totalBytes (page : Page) : Nat := 
  page.records.foldr (fun record bytes => record.length + bytes) 0

/-- The page that some records make up. Their lengths have to add up to a number of 64 bits. -/
def ofRecords? (records : List Asset) : Option Page :=
  let page : Page := ⟨records⟩
  if page.totalBytes < UInt64.size then some page else none

def overflowMessage : String := "attempt to add with overflow"

def asset? (page : Page) (id : String) : Option Asset :=
  page.records.reverse.find? (·.id = id)

def rootId : String := "0"

def root? (page : Page) : Option Asset := page.asset? rootId

/-- The ids recorded with a given parent, as often as they were, in the order of their
characters. Nothing is its own child. -/
def children (page : Page) (id : String) : List String :=
  let recorded := page.records.filter fun asset => asset.parentId = id && asset.id ≠ id
  (recorded.map (·.id)).mergeSort fun a b => decide (a ≤ b)

def ids (page : Page) : List String := (page.records.map (·.id)).eraseDups

def size (page : Page) : Nat := page.ids.length

def orphans (page : Page) : List (String × Nat) :=
  let parents := page.records.filter fun asset =>
    asset.id ≠ asset.parentId && (page.asset? asset.parentId).isNone
  let distinct := (parents.map (·.parentId)).eraseDups.mergeSort fun a b => decide (a ≤ b)
  distinct.map fun parent => (parent, (page.children parent).length)

/-- The ids reached from some through children, each once. Every step adds an id of the page
or drops one that is known, so `steps` need not be more than there are ids and children. -/
def reachFrom (page : Page) : Nat → List String → List String → List String
  | 0, known, _ => known
  | _, known, [] => known
  | steps + 1, known, id :: rest =>
    if known.contains id then page.reachFrom steps known rest
    else page.reachFrom steps (id :: known) (page.children id ++ rest)

/-- The ids reached from the root, which counts whether it was recorded or not. -/
def reached (page : Page) : List String :=
  page.reachFrom (2 * page.records.length + 2) [] [rootId]

end Page

end PageLoad.Trace

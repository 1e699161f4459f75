/-!
One unit of crawl work: a URL to fetch. The tasks of a round form a tree, and an id spells out
the path from the root: the third asset of the root page is `0.2`, the first asset of that one
is `0.2.0`.
-/

namespace PageLoad.Crawl

structure Task where
  id : String
  /-- The id of the task whose page names this one. The root is its own parent. -/
  parentId : String
  depth : Nat
  url : String
  deriving DecidableEq, Repr

namespace Task

def rootId : String := "0"

def root (url : String) : Task := ⟨rootId, rootId, 0, url⟩

/-- The task for the asset in a given position of a page. A round does not check its depth: among fewer
than 2³² URLs it comes to none that lies too deep. -/
def child (task : Task) (index : Nat) (url : String) : Task :=
  ⟨task.id ++ "." ++ toString index, task.id, task.depth + 1, url⟩

def maxDepth : Nat := UInt32.size - 1

def child? (task : Task) (index : Nat) (url : String) : Option Task :=
  if task.depth < maxDepth then some (task.child index url) else none

def overflowMessage : String := "attempt to add with overflow"

end Task

end PageLoad.Crawl

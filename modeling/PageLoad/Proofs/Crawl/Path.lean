import PageLoad.Crawl.Task
import PageLoad.Proofs.Number.Digits
import Mathlib.Data.List.Induction

/-!
Ids spell out paths. A path says the position of an asset in each page on the way from the root, and the
id of the task at its end says which path it is, whatever the URLs are.
-/

namespace PageLoad.Crawl
open Number

/-! The ids of the assets of a page. -/

def childId (id : String) (index : Nat) : String := id ++ "." ++ toString index

theorem Task.child_id (task : Task) (index : Nat) (url : String) :
    (task.child index url).id = childId task.id index := rfl

theorem childId_toList (id : String) (index : Nat) :
    (childId id index).toList = id.toList ++ '.' :: (toString index).toList := by
  simp [childId]

theorem childId_longer (id : String) (index : Nat) : id.length < (childId id index).length := by
  rw [← String.length_toList, ← String.length_toList, childId_toList, List.length_append,
    List.length_cons]
  omega

/-- The id of a child says whose child it is, and which. -/
theorem childId_injective {id other : String} {i j : Nat} (same : childId id i = childId other j) :
    id = other ∧ i = j := by
  have chars := congrArg String.toList same
  rw [childId_toList, childId_toList] at chars
  have ⟨front, index⟩ := append_number_injective chars
  exact ⟨String.toList_inj.mp front, index⟩

theorem childId_ne_rootId (id : String) (index : Nat) : childId id index ≠ Task.rootId := by
  intro same
  have chars := congrArg String.toList same
  rw [childId_toList] at chars
  have point : '.' ∈ Task.rootId.toList := chars ▸ by simp
  exact absurd point (by decide)

theorem count_point_childId (id : String) (index : Nat) :
    (childId id index).toList.count '.' = id.toList.count '.' + 1 := by
  have pointless : (toString index).toList.count '.' = 0 :=
    List.count_eq_zero_of_not_mem (point_not_mem_toString index)
  rw [childId_toList, List.count_append, List.count_cons_self, pointless]

/-! The ids along a path. -/

def pathId (path : List Nat) : String := path.foldl childId Task.rootId

theorem pathId_concat (path : List Nat) (index : Nat) :
    pathId (path ++ [index]) = childId (pathId path) index := by
  rw [pathId, List.foldl_append]
  rfl

/-- Paths are compared from their ends, where the last position can be read off the id. -/
theorem pathId_injective : Function.Injective pathId := by
  intro path other same
  induction path using List.reverseRecOn generalizing other with
  | nil =>
    cases other using List.reverseRecOn with
    | nil => rfl
    | append_singleton front last =>
      rw [pathId_concat] at same
      exact absurd same.symm (childId_ne_rootId _ _)
  | append_singleton path index ih =>
    cases other using List.reverseRecOn with
    | nil =>
      rw [pathId_concat] at same
      exact absurd same (childId_ne_rootId _ _)
    | append_singleton front last =>
      rw [pathId_concat, pathId_concat] at same
      have ⟨fronts, lasts⟩ := childId_injective same
      rw [ih fronts, lasts]

theorem count_point_pathId (path : List Nat) : (pathId path).toList.count '.' = path.length := by
  induction path using List.reverseRecOn with
  | nil => rfl
  | append_singleton path index ih =>
    rw [pathId_concat, count_point_childId, ih, List.length_append, List.length_singleton]

theorem pathId_dropLast_eq_iff (path : List Nat) : pathId path = pathId path.dropLast ↔ path = [] := by
  constructor
  · intro same
    have lengths := congrArg List.length (pathId_injective same)
    rw [List.length_dropLast] at lengths
    apply List.length_eq_zero_iff.mp
    omega
  · intro empty
    rw [empty, List.dropLast_nil]

/-! The tasks along a path. -/

structure Hop where
  index : Nat
  url : String

def Hop.path (hops : List Hop) : List Nat := hops.map (·.index)

namespace Task

def descend? (task : Task) (hops : List Hop) : Option Task :=
  hops.foldlM (fun task hop => task.child? hop.index hop.url) task

theorem descend?_concat (task : Task) (hops : List Hop) (hop : Hop) :
    task.descend? (hops ++ [hop]) = (task.descend? hops).bind (·.child? hop.index hop.url) := by
  rw [descend?, List.foldlM_append]
  simp only [List.foldlM_cons, List.foldlM_nil, bind_pure]
  rfl

theorem child?_of_lt {task : Task} (room : task.depth < maxDepth) (index : Nat) (url : String) :
    task.child? index url = some (task.child index url) := if_pos room

/-- A task is the one at the end of a path: its ids spell out the path and the path of its parent. -/
structure EndsPath (task : Task) (path : List Nat) : Prop where
  id : task.id = pathId path
  parentId : task.parentId = pathId path.dropLast
  depth : task.depth = path.length

theorem endsPath_root (url : String) : (root url).EndsPath [] := ⟨rfl, rfl, rfl⟩

theorem EndsPath.child {task : Task} {path : List Nat} (ends : task.EndsPath path) (index : Nat)
    (url : String) : (task.child index url).EndsPath (path ++ [index]) where
  id := by rw [child_id, ends.id, pathId_concat]
  parentId := by
    rw [List.dropLast_concat]
    exact ends.id
  depth := by
    rw [List.length_append, List.length_singleton, ← ends.depth]
    rfl

theorem exists_endsPath (seedUrl : String) {hops : List Hop} (short : hops.length < UInt32.size) :
    ∃ task, (root seedUrl).descend? hops = some task ∧ task.EndsPath (Hop.path hops) := by
  induction hops using List.reverseRecOn with
  | nil => exact ⟨root seedUrl, rfl, endsPath_root seedUrl⟩
  | append_singleton hops hop ih =>
    rw [List.length_append, List.length_singleton] at short
    obtain ⟨parent, reached, ends⟩ := ih (Nat.lt_of_succ_lt short)
    -- the depth of the parent is how many hops come before the last
    have room : parent.depth < maxDepth := by
      rw [ends.depth, Hop.path, List.length_map]
      exact Nat.lt_sub_of_add_lt short
    refine ⟨parent.child hop.index hop.url, ?_, ?_⟩
    · rw [descend?_concat, reached, Option.bind_some, child?_of_lt room]
    · rw [Hop.path, List.map_append]
      exact ends.child hop.index hop.url

/-- Two ways from a root that are not too long lead to tasks whose ids are equal exactly if the paths are,
whatever the URLs. As many hops lead to a task as its depth says and its id has points. Its parent's id is
that of the way without the last hop, and only the root is its own parent. -/
theorem ids_spell_paths (seedUrl otherUrl : String) (hops others : List Hop)
    (short : hops.length < UInt32.size) (otherShort : others.length < UInt32.size) :
    ∃ task other, (root seedUrl).descend? hops = some task ∧
      (root otherUrl).descend? others = some other ∧
      (task.id = other.id ↔ Hop.path hops = Hop.path others) ∧
      task.depth = hops.length ∧ task.id.toList.count '.' = hops.length ∧
      (∃ parent, (root seedUrl).descend? hops.dropLast = some parent ∧ task.parentId = parent.id) ∧
      (task.id = task.parentId ↔ hops = []) := by
  obtain ⟨task, reached, ends⟩ := exists_endsPath seedUrl short
  obtain ⟨other, otherReached, otherEnds⟩ := exists_endsPath otherUrl otherShort
  have parentShort : hops.dropLast.length < UInt32.size := by
    rw [List.length_dropLast]
    exact Nat.lt_of_le_of_lt (Nat.sub_le _ _) short
  obtain ⟨parent, parentReached, parentEnds⟩ := exists_endsPath seedUrl parentShort
  have hopsLength : (Hop.path hops).length = hops.length := List.length_map _
  refine ⟨task, other, reached, otherReached, ?_, ?_, ?_, ⟨parent, parentReached, ?_⟩, ?_⟩
  · rw [ends.id, otherEnds.id]
    exact pathId_injective.eq_iff
  · rw [ends.depth, hopsLength]
  · rw [ends.id, count_point_pathId, hopsLength]
  · rw [ends.parentId, parentEnds.id, Hop.path, Hop.path, List.map_dropLast]
  · rw [ends.id, ends.parentId, pathId_dropLast_eq_iff]
    exact List.map_eq_nil_iff

/-- The first asset of the second one of a page is not the eleventh one of that page. -/
theorem ids_spell_paths_nested : 2 < UInt32.size ∧ 1 < UInt32.size ∧
    ∃ task other, (root "a://b").descend? [⟨1, "a://c"⟩, ⟨0, "a://d"⟩] = some task ∧
      (root "a://e").descend? [⟨10, "a://d"⟩] = some other ∧ task.id ≠ other.id ∧
      task.depth = 2 ∧ task.id.toList.count '.' = 2 ∧
      (∃ parent, (root "a://b").descend? [⟨1, "a://c"⟩] = some parent ∧ task.parentId = parent.id) ∧
      task.id ≠ task.parentId := by
  obtain ⟨task, other, reached, otherReached, ids, depth, points, parent, own⟩ :=
    ids_spell_paths "a://b" "a://e" [⟨1, "a://c"⟩, ⟨0, "a://d"⟩] [⟨10, "a://d"⟩] (by decide) (by decide)
  exact ⟨by decide, by decide, task, other, reached, otherReached, fun same => absurd (ids.mp same) (by decide),
    depth, points, parent, fun same => absurd (own.mp same) (by simp)⟩

end Task

end PageLoad.Crawl

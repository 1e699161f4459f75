import PageLoad.Trace.Page
import Mathlib.Algebra.Ring.Nat
import Mathlib.Data.List.Nodup

/-!
The assets of a page by their ids, and who loads whom.
-/

namespace PageLoad.Trace.Page

variable {page : Page} {id : String} {asset : Asset}

theorem totalBytes_eq_sum (page : Page) : page.totalBytes = (page.records.map (·.length)).sum := by
  rw [totalBytes]
  induction page.records with
  | nil => rfl
  | cons asset records ih => rw [List.foldr_cons, ih, List.map_cons, List.sum_cons]

theorem asset?_of_mem (member : asset ∈ page.records) : ∃ last, page.asset? asset.id = some last := by
  apply Option.isSome_iff_exists.mp
  rw [asset?, List.find?_isSome]
  exact ⟨asset, List.mem_reverse.mpr member, decide_eq_true rfl⟩

theorem asset?_isSome (known : id ∈ page.records.map (·.id)) : ∃ asset, page.asset? id = some asset := by
  obtain ⟨asset, member, rfl⟩ := List.mem_map.mp known
  exact asset?_of_mem member

theorem mem_of_asset? (found : page.asset? id = some asset) : asset ∈ page.records ∧ asset.id = id := by
  rw [asset?] at found
  exact ⟨List.mem_reverse.mp (List.mem_of_find?_eq_some found), by simpa using List.find?_some found⟩

theorem asset?_of_distinct (distinct : (page.records.map (·.id)).Nodup)
    (member : asset ∈ page.records) : page.asset? asset.id = some asset := by
  obtain ⟨last, found⟩ := asset?_of_mem member
  have ⟨present, named⟩ := mem_of_asset? found
  rw [found, List.inj_on_of_nodup_map distinct present member named]

theorem asset?_eq_some_iff (distinct : (page.records.map (·.id)).Nodup) :
    page.asset? id = some asset ↔ asset ∈ page.records ∧ asset.id = id := by
  constructor
  · exact mem_of_asset?
  · rintro ⟨member, rfl⟩
    exact asset?_of_distinct distinct member

theorem mem_children {child : String} :
    child ∈ page.children id ↔
      ∃ asset ∈ page.records, asset.id = child ∧ asset.parentId = id ∧ child ≠ id := by
  simp only [children, List.mem_mergeSort, List.mem_map, List.mem_filter, Bool.and_eq_true,
    decide_eq_true_eq]
  constructor
  · rintro ⟨asset, ⟨member, parent, other⟩, rfl⟩
    exact ⟨asset, member, rfl, parent, other⟩
  · rintro ⟨asset, member, rfl, parent, other⟩
    exact ⟨asset, ⟨member, parent, other⟩, rfl⟩

theorem children_nodup (distinct : (page.records.map (·.id)).Nodup) : (page.children id).Nodup := by
  rw [children, (List.mergeSort_perm _ _).nodup_iff]
  exact distinct.sublist (List.filter_sublist.map _)

/-- A page whose ids differ and whose root was recorded as its own parent. -/
structure IsGrounded (page : Page) : Prop where
  distinct : (page.records.map (·.id)).Nodup
  root : ∃ root ∈ page.records, root.id = rootId ∧ root.parentId = rootId

/-- A page in which each asset but the root has a longer id than the one that loads it. -/
structure IsTree (page : Page) : Prop extends IsGrounded page where
  parent : ∀ asset ∈ page.records, asset.id = rootId ∨
    ∃ parent ∈ page.records, parent.id = asset.parentId ∧ parent.id.length < asset.id.length

namespace IsGrounded

theorem rootId_not_mem_children (grounded : page.IsGrounded) : rootId ∉ page.children id := by
  intro child
  obtain ⟨asset, member, named, parent, other⟩ := mem_children.mp child
  obtain ⟨root, present, isRoot, own⟩ := grounded.root
  have same := List.inj_on_of_nodup_map grounded.distinct member present (named.trans isRoot.symm)
  rw [same, own] at parent
  exact other parent

theorem root_isSome (grounded : page.IsGrounded) : ∃ root, page.root? = some root := by
  obtain ⟨root, recorded, named, _⟩ := grounded.root
  exact asset?_isSome (List.mem_map.mpr ⟨root, recorded, named⟩)

theorem parentId_of_mem_children (grounded : page.IsGrounded) (recorded : asset ∈ page.records)
    (child : asset.id ∈ page.children id) : asset.parentId = id := by
  obtain ⟨other, present, named, parentId, _⟩ := mem_children.mp child
  exact List.inj_on_of_nodup_map grounded.distinct present recorded named ▸ parentId

theorem parent_unique (grounded : page.IsGrounded) {child parent other : String}
    (first : child ∈ page.children parent) (second : child ∈ page.children other) : parent = other := by
  obtain ⟨asset, member, named, isParent, _⟩ := mem_children.mp first
  obtain ⟨asset', present, named', isOther, _⟩ := mem_children.mp second
  obtain rfl := List.inj_on_of_nodup_map grounded.distinct member present (named.trans named'.symm)
  exact isParent.symm.trans isOther

end IsGrounded

theorem IsTree.parent_isSome (tree : page.IsTree) (member : asset ∈ page.records) :
    ∃ parent, page.asset? asset.parentId = some parent := by
  obtain isRoot | ⟨parent, recorded, named, _⟩ := tree.parent asset member
  · obtain ⟨root, recorded, named, own⟩ := tree.root
    obtain rfl := List.inj_on_of_nodup_map tree.distinct member recorded (isRoot.trans named.symm)
    rw [own]
    exact tree.toIsGrounded.root_isSome
  · exact asset?_isSome (List.mem_map.mpr ⟨parent, recorded, named⟩)

end PageLoad.Trace.Page

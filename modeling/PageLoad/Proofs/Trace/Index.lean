import PageLoad.Proofs.Trace.Page
import PageLoad.Trace.Index
import Mathlib.Data.String.Basic
import Std.Data.HashMap.Lemmas

/-!
A page comes out the same in whatever order its records are entered, as long as their ids differ: the same
assets, and for each of them the same children in the same order.
-/

namespace PageLoad.Trace

namespace Page

variable {records others : List Asset}

def recordedBelow (records : List Asset) (id : String) : List String :=
  (records.filter fun asset => asset.parentId = id && asset.id ≠ id).map (·.id)

theorem children_eq (page : Page) (id : String) :
    page.children id = (recordedBelow page.records id).mergeSort fun a b => decide (a ≤ b) := rfl

theorem children_sorted (page : Page) (id : String) : (page.children id).Pairwise (· ≤ ·) := by
  have linked (a b c : String) (first : decide (a ≤ b) = true) (second : decide (b ≤ c) = true) :
      decide (a ≤ c) = true :=
    decide_eq_true (le_trans (of_decide_eq_true first) (of_decide_eq_true second))
  have ordered := List.pairwise_mergeSort linked (fun a b => by simpa using le_total a b)
    (recordedBelow page.records id)
  exact ordered.imp of_decide_eq_true

theorem children_strict {page : Page} (distinct : (page.records.map (·.id)).Nodup) (id : String) :
    (page.children id).Pairwise (· < ·) :=
  (page.children_sorted id).imp₂ (fun _ _ => lt_of_le_of_ne) (children_nodup distinct)

theorem ids_nodup (page : Page) : page.ids.Nodup := by
  rw [ids]
  generalize page.records.map (·.id) = ids
  induction long : ids.length using Nat.strongRecOn generalizing ids with
  | ind size ih =>
    cases ids with
    | nil => exact List.nodup_nil
    | cons id rest =>
      have shorter : (rest.filter fun other => !other == id).length < size :=
        Nat.lt_of_le_of_lt (List.length_filter_le _ rest) (by rw [← long]; exact Nat.lt_succ_self _)
      rw [List.eraseDups_cons, List.nodup_cons]
      exact ⟨by simp, ih _ shorter _ rfl⟩

theorem asset?_concat (records : List Asset) (record : Asset) (id : String) :
    (Page.mk (records ++ [record])).asset? id =
      if record.id = id then some record else (Page.mk records).asset? id := by
  rw [asset?, List.reverse_append, List.reverse_singleton, List.singleton_append, List.find?_cons]
  by_cases named : record.id = id <;> simp [named, asset?]

theorem asset?_isSome_iff {page : Page} {id : String} :
    (page.asset? id).isSome = true ↔ id ∈ page.records.map (·.id) := by
  simp [asset?]

/-! Records in another order. -/

theorem asset?_perm (distinct : (records.map (·.id)).Nodup) (same : records.Perm others) (id : String) :
    (Page.mk records).asset? id = (Page.mk others).asset? id := by
  have distinct' : (others.map (·.id)).Nodup := (same.map _).nodup_iff.mp distinct
  ext asset
  rw [asset?_eq_some_iff distinct, asset?_eq_some_iff distinct', same.mem_iff]

theorem children_perm (same : records.Perm others) (id : String) :
    (Page.mk records).children id = (Page.mk others).children id := by
  have below : (recordedBelow records id).Perm (recordedBelow others id) := (same.filter _).map _
  have sorted : ((Page.mk records).children id).Perm ((Page.mk others).children id) :=
    ((List.mergeSort_perm _ _).trans below).trans (List.mergeSort_perm _ _).symm
  exact sorted.eq_of_pairwise (fun _ _ _ _ => le_antisymm) (children_sorted _ id) (children_sorted _ id)

theorem totalBytes_perm (same : records.Perm others) :
    (Page.mk records).totalBytes = (Page.mk others).totalBytes := by
  rw [totalBytes_eq_sum, totalBytes_eq_sum]
  exact (same.map _).sum_nat

end Page

namespace Index

/-- What a page by its maps shows is the page of some records. -/
structure Shows (index : Index) (page : Page) : Prop where
  asset : ∀ id, index.asset? id = page.asset? id
  children : ∀ id, index.childrenOf id = page.children id
  totalBytes : index.totalBytes = page.totalBytes
  size : index.size = page.size

/-- The maps hold some records, whose children have not been put in order. -/
structure Holds (index : Index) (records : List Asset) : Prop where
  asset : ∀ id, index.asset? id = (Page.mk records).asset? id
  children : ∀ id, index.childrenOf id = Page.recordedBelow records id
  totalBytes : index.totalBytes = (Page.mk records).totalBytes

theorem holds_empty : empty.Holds [] := by
  refine ⟨fun id => ?_, fun id => ?_, rfl⟩
  · simp [asset?, empty, Page.asset?]
  · simp [childrenOf, empty, Page.recordedBelow]

variable {index next : Index} {records : List Asset} {record : Asset}

theorem getD_childrenWith (index : Index) (record : Asset) (id : String) :
    (index.childrenWith record).getD id [] = index.childrenOf id ++ Page.recordedBelow [record] id := by
  by_cases own : record.id = record.parentId
  · have childless : Page.recordedBelow [record] id = [] := by
      simp [Page.recordedBelow, own]
    rw [childrenWith, if_pos own, childless, List.append_nil, childrenOf]
  · rw [childrenWith, if_neg own, Std.HashMap.getD_insert]
    by_cases parent : record.parentId = id
    · have child : Page.recordedBelow [record] id = [record.id] := by
        simp [Page.recordedBelow, parent, parent ▸ own]
      rw [if_pos (beq_iff_eq.mpr parent), child, parent, childrenOf]
    · have childless : Page.recordedBelow [record] id = [] := by
        simp [Page.recordedBelow, parent]
      rw [if_neg (beq_iff_eq.not.mpr parent), childless, List.append_nil, childrenOf]

theorem Holds.add (holds : index.Holds records) (added : index.add? record = some next) :
    next.Holds (records ++ [record]) ∧ next.totalBytes < UInt64.size := by
  rw [add?] at added
  split at added
  next small =>
    cases added
    refine ⟨⟨fun id => ?_, fun id => ?_, ?_⟩, small⟩
    · rw [Page.asset?_concat, ← holds.asset, asset?, Std.HashMap.getElem?_insert, asset?]
      simp only [beq_iff_eq]
    · rw [childrenOf, getD_childrenWith, holds.children, Page.recordedBelow, Page.recordedBelow,
        Page.recordedBelow, List.filter_append, List.map_append]
    · rw [Page.totalBytes_eq_sum, holds.totalBytes, Page.totalBytes_eq_sum, List.map_append, List.sum_append]
      simp
  next => cases added

theorem Holds.addAll {rest : List Asset} (holds : index.Holds records)
    (added : rest.foldlM add? index = some next) : next.Holds (records ++ rest) := by
  induction rest generalizing index records with
  | nil =>
    cases added
    rw [List.append_nil]
    exact holds
  | cons record rest ih =>
    rw [List.foldlM_cons] at added
    obtain ⟨between, first, later⟩ := Option.bind_eq_some_iff.mp added
    have whole := ih (holds.add first).1 later
    rwa [List.append_assoc] at whole

theorem addAll_isSome (small : index.totalBytes < UInt64.size) (records : List Asset) :
    (records.foldlM add? index).isSome = true ↔
      index.totalBytes + (records.map (·.length)).sum < UInt64.size := by
  induction records generalizing index with
  | nil => simpa using small
  | cons record rest ih =>
    rw [List.foldlM_cons, List.map_cons, List.sum_cons, ← Nat.add_assoc, add?]
    split
    next fits => exact ih fits
    next large =>
      refine iff_of_false nofun ?_
      omega

theorem ofRecords?_isSome (records : List Asset) :
    (ofRecords? records).isSome = true ↔ (Page.mk records).totalBytes < UInt64.size := by
  rw [ofRecords?, Option.isSome_map, addAll_isSome (by decide), Page.totalBytes_eq_sum, empty, Nat.zero_add]

theorem size_eq {page : Page} (asset : ∀ id, index.asset? id = page.asset? id) : index.size = page.size := by
  have same : index.assets.keys.Perm page.ids := by
    rw [List.perm_ext_iff_of_nodup Std.HashMap.nodup_keys page.ids_nodup]
    intro id
    rw [Std.HashMap.mem_keys, Std.HashMap.mem_iff_isSome_getElem?, ← asset?, asset, Page.asset?_isSome_iff,
      Page.ids, List.mem_eraseDups]
  rw [size, ← Std.HashMap.length_keys, same.length_eq, Page.size]

theorem shows_of_ofRecords? (entered : ofRecords? records = some index) : index.Shows ⟨records⟩ := by
  obtain ⟨unsorted, added, rfl⟩ := Option.map_eq_some_iff.mp entered
  have holds := holds_empty.addAll added
  rw [List.nil_append] at holds
  refine ⟨holds.asset, fun id => ?_, holds.totalBytes, size_eq holds.asset⟩
  have below := holds.children id
  rw [childrenOf, Std.HashMap.getD_eq_getD_getElem?] at below
  rw [childrenOf, sort, Std.HashMap.getD_map, Page.children_eq, ← below]
  cases unsorted.children[id]? with
  | none => exact List.mergeSort_nil.symm
  | some ids => rfl

structure IsFrom (index : Index) (records : List Asset) : Prop extends index.Shows ⟨records⟩ where
  found : ∀ asset ∈ records, index.asset? asset.id = some asset
  strict : ∀ id, (index.childrenOf id).Pairwise (· < ·)
  child : ∀ id child, child ∈ index.childrenOf id ↔
    ∃ asset ∈ records, asset.id = child ∧ asset.parentId = id ∧ child ≠ id
  parent : ∀ asset ∈ records, asset.parentId ≠ asset.id → ∃! id, asset.id ∈ index.childrenOf id

theorem isFrom_of_ofRecords? (distinct : (records.map (·.id)).Nodup)
    (entered : ofRecords? records = some index) : index.IsFrom records := by
  have shows := shows_of_ofRecords? entered
  have child (id child : String) : child ∈ index.childrenOf id ↔
      ∃ asset ∈ records, asset.id = child ∧ asset.parentId = id ∧ child ≠ id := by
    rw [shows.children, Page.mem_children]
  refine { shows with found := ?_, strict := ?_, child := child, parent := ?_ }
  · intro asset member
    rw [shows.asset]
    exact Page.asset?_of_distinct distinct member
  · intro id
    rw [shows.children]
    exact Page.children_strict distinct id
  · intro asset member apart
    refine ⟨asset.parentId, (child _ _).mpr ⟨asset, member, rfl, rfl, apart.symm⟩, fun id below => ?_⟩
    obtain ⟨found, present, named, parent, _⟩ := (child _ _).mp below
    rw [← parent, List.inj_on_of_nodup_map distinct present member named]

structure Agrees (index other : Index) : Prop where
  asset : ∀ id, index.asset? id = other.asset? id
  children : ∀ id, index.childrenOf id = other.childrenOf id
  totalBytes : index.totalBytes = other.totalBytes
  size : index.size = other.size

theorem Shows.agrees_of_perm {other : Index} {others : List Asset} (shows : index.Shows ⟨records⟩)
    (shows' : other.Shows ⟨others⟩) (distinct : (records.map (·.id)).Nodup)
    (same : records.Perm others) : index.Agrees other := by
  have asset (id : String) : other.asset? id = (Page.mk records).asset? id := by
    rw [shows'.asset, Page.asset?_perm distinct same]
  refine ⟨fun id => ?_, fun id => ?_, ?_, ?_⟩
  · rw [shows.asset, asset]
  · rw [shows.children, shows'.children, Page.children_perm same]
  · rw [shows.totalBytes, shows'.totalBytes, Page.totalBytes_perm same]
  · rw [shows.size, size_eq asset]

end Index

/-- Records whose ids differ make up the same page in any order, if their lengths are not too much. Its
children are, below each id, the other ids recorded with that parent, in strict order; so what was recorded
with another parent than itself is a child of one asset and of no other. -/
theorem page_of_any_order {records others : List Asset} (distinct : (records.map (·.id)).Nodup)
    (fits : (Page.mk records).totalBytes < UInt64.size) (same : records.Perm others) :
    ∃ index other, Index.ofRecords? records = some index ∧ Index.ofRecords? others = some other ∧
      index.Agrees other ∧ index.IsFrom records ∧ other.IsFrom others := by
  have fits' : (Page.mk others).totalBytes < UInt64.size := Page.totalBytes_perm same ▸ fits
  have distinct' : (others.map (·.id)).Nodup := (same.map _).nodup_iff.mp distinct
  obtain ⟨index, entered⟩ := Option.isSome_iff_exists.mp ((Index.ofRecords?_isSome records).mpr fits)
  obtain ⟨other, entered'⟩ := Option.isSome_iff_exists.mp ((Index.ofRecords?_isSome others).mpr fits')
  have isFrom := Index.isFrom_of_ofRecords? distinct entered
  have isFrom' := Index.isFrom_of_ofRecords? distinct' entered'
  exact ⟨index, other, entered, entered', isFrom.agrees_of_perm isFrom'.toShows distinct same, isFrom, isFrom'⟩

def lateRoot : List Asset :=
  [⟨"0.10", "0", 5, .zero, "http://a/c.png"⟩, ⟨"0.2", "0", 7, .zero, "http://a/b.png"⟩,
    ⟨"0", "0", 100, .zero, "http://a/"⟩]

theorem page_of_any_order_late : (lateRoot.map (·.id)).Nodup ∧ (Page.mk lateRoot).totalBytes < UInt64.size ∧
    ∃ index other, Index.ofRecords? lateRoot = some index ∧
      Index.ofRecords? lateRoot.reverse = some other ∧ index.Agrees other ∧ index.IsFrom lateRoot ∧
      other.IsFrom lateRoot.reverse := by
  have distinct : (lateRoot.map (·.id)).Nodup := by decide
  have fits : (Page.mk lateRoot).totalBytes < UInt64.size := by decide
  exact ⟨distinct, fits, page_of_any_order distinct fits (List.reverse_perm lateRoot).symm⟩

end PageLoad.Trace

import PageLoad.Proofs.Number.TextOrder
import PageLoad.Proofs.Trace.Index
import PageLoad.Proofs.Trace.Recorded

/-!
The children of an asset in a page that has been read back from what a crawl has printed. Their ids end in
the positions at which the page of the asset names them, and they come in the order of the characters of
these positions, which is not that of the positions themselves.
-/

namespace PageLoad.Trace
open Number Crawl

theorem append_lt_append_left_iff (front : List Char) {text other : List Char} :
    front ++ text < front ++ other ↔ text < other := by
  induction front with
  | nil => rfl
  | cons c front ih => simp [ih]

/-- What stands before the last point decides nothing between siblings. -/
theorem childId_lt_iff (id : String) (i j : Nat) : childId id i < childId id j ↔ toString i < toString j := by
  have split (index : Nat) : (childId id index).toList = (id.toList ++ ['.']) ++ (toString index).toList := by
    rw [childId_toList, List.append_assoc, List.singleton_append]
  rw [String.lt_iff_toList_lt, split, split, append_lt_append_left_iff, ← String.lt_iff_toList_lt]

def Names (round : Crawled) (page : Page) (id : String) (index : Nat) (url : String) : Prop :=
  ∃ parent ∈ page.records, parent.id = id ∧
    ∃ whole, round.fetch parent.url = .page whole ∧ whole.links[index]? = some url

/-- The children of an asset are those recorded for the positions at which its page names them, in the
order of the characters of the positions. -/
structure Siblings (round : Crawled) (page : Page) (id : String) (indices : List Nat) : Prop where
  listed : page.children id = indices.map (childId id)
  recorded : ∀ index, index ∈ indices ↔ ∃ asset ∈ page.records, asset.id = childId id index
  named : ∀ asset ∈ page.records, ∀ index, asset.id = childId id index →
    asset.parentId = id ∧ Names round page id index asset.url
  sorted : indices.Pairwise fun i j => toString i < toString j

variable {round : Crawled} {page : Page} {workers : Nat}

theorem Page.Records.asset_cases (records : page.Records round) (crawled : round.IsBy workers) {asset : Asset}
    (member : asset ∈ page.records) :
    (asset.id = Task.rootId ∧ asset.parentId = Task.rootId) ∨
      ∃ index, asset.id = childId asset.parentId index ∧
        Names round page asset.parentId index asset.url := by
  have ⟨finished, _⟩ := crawled.finished
  obtain ⟨report, reported, same⟩ := match_of_mem records.assets member
  obtain ⟨task, accepted, _, _, rfl⟩ := finished.mem_reports.mp reported
  obtain root | ⟨parent, known, whole, index, found, placed, child⟩ := finished.rooted.descends task accepted
  · refine .inl ⟨?_, ?_⟩
    · rw [same.id]
      exact congrArg (·.id) root
    · rw [same.parentId]
      exact congrArg (·.parentId) root
  · -- the page of the parent has been fetched, so the parent was recorded
    have above := finished.mem_reports.mpr ⟨parent, known, whole, found, rfl⟩
    obtain ⟨recorded, present, sameParent⟩ := match_of_mem records.assets.flip above
    have parentId : asset.parentId = parent.id := same.parentId.trans (congrArg (·.parentId) child)
    refine .inr ⟨index, ?_, recorded, present, sameParent.id.trans parentId.symm, whole, ?_, ?_⟩
    · rw [parentId, same.id]
      exact congrArg (·.id) child
    · rw [sameParent.url]
      exact found
    · rw [same.url]
      exact placed

theorem Page.Records.names_of_childId (records : page.Records round) (crawled : round.IsBy workers) {asset : Asset}
    (member : asset ∈ page.records) {id : String} {index : Nat} (spelled : asset.id = childId id index) :
    asset.parentId = id ∧ Names round page id index asset.url := by
  obtain ⟨isRoot, _⟩ | ⟨place, child, names⟩ := records.asset_cases crawled member
  · exact (childId_ne_rootId id index (spelled.symm.trans isRoot)).elim
  · obtain ⟨rfl, rfl⟩ := childId_injective (spelled.symm.trans child)
    exact ⟨rfl, names⟩

theorem Page.Records.siblings (records : page.Records round) (crawled : round.IsBy workers) (id : String) :
    ∃ indices, Siblings round page id indices := by
  have spelled : ∀ child ∈ page.children id, child ∈ Set.range (childId id) := by
    intro child below
    obtain ⟨asset, member, rfl, rfl, apart⟩ := Page.mem_children.mp below
    obtain ⟨isRoot, own⟩ | ⟨index, child, _⟩ := records.asset_cases crawled member
    · exact absurd (isRoot.trans own.symm) apart
    · exact ⟨index, child.symm⟩
  have lists : page.children id ∈ Set.range (List.map (childId id)) := by
    rw [Set.range_list_map]
    exact spelled
  obtain ⟨indices, listed⟩ := lists
  refine ⟨indices, listed.symm, fun index => ?_, fun _ member _ => records.names_of_childId crawled member, ?_⟩
  · have injective : Function.Injective (childId id) := fun _ _ same => (childId_injective same).2
    rw [← List.mem_map_of_injective injective, listed, Page.mem_children]
    constructor
    · rintro ⟨asset, member, named, _⟩
      exact ⟨asset, member, named⟩
    · rintro ⟨asset, member, named⟩
      have apart : childId id index ≠ id := fun same =>
        (childId_longer id index).ne (congrArg String.length same.symm)
      exact ⟨asset, member, named, (records.names_of_childId crawled member named).1, apart⟩
  · have strict := Page.children_strict records.distinct id
    rw [← listed, List.pairwise_map] at strict
    exact strict.imp (childId_lt_iff id _ _).mp

/-- The children of each asset of a page that is read back are those that its page names, in the order of the
characters of their positions. They are in the order in which the page names them exactly if the digits
of no position, behind a decimal point, are worth more than those of a later one; so they are if
all positions have equally many digits. -/
theorem children_by_position {input : List UInt8} {rounds : List Crawled}
    (crawls : Crawls workers input rounds) (regular : ∀ round ∈ rounds, Regular round) {page : Page}
    (member : .page page ∈ read (printed .csv rounds).toUTF8.toList) :
    ∃ round ∈ rounds, page.Records round ∧ ∀ id, ∃ indices, Siblings round page id indices ∧
      (indices.Pairwise (· < ·) ↔ ∀ i ∈ indices, ∀ j ∈ indices, i < j → FractionLE i j) ∧
      ((∀ i ∈ indices, ∀ j ∈ indices, digitCount i = digitCount j) → indices.Pairwise (· < ·)) := by
  obtain ⟨round, told, ofRound⟩ := records_of_read crawls regular member
  have present : round ∈ rounds := List.mem_of_mem_filter told
  refine ⟨round, present, ofRound, fun id => ?_⟩
  obtain ⟨indices, siblings⟩ := ofRound.siblings (crawls.crawled round present) id
  have ordered := pairwise_lt_iff siblings.sorted
  exact ⟨indices, siblings, ordered, fun even =>
    ordered.mpr fun i first j second => fractionLE_of_digitCount_eq (even i first j second)⟩

/-! A page that names itself twice, then a picture eight times, and then another. -/

def crowdedSite : Fetch.Site :=
  [("a://b", .page ⟨pictureUrl, "text/html", ("<img src=a://b><img src=a://b><img src=c><img src=c>" ++
      "<img src=c><img src=c><img src=c><img src=c><img src=c><img src=c><img src=d>").toUTF8.toList, 0⟩),
    ("a://b/c", .page ⟨pictureUrl, "image/png", [1, 2, 3], 0⟩),
    ("a://b/d", .page ⟨pictureUrl, "image/png", [4], 0⟩)]

def crowdedInput : List UInt8 := "1,a://b\n".toUTF8.toList

def crowdedPage : Page :=
  ⟨[⟨"0", "0", 129, .zero, "a://b"⟩, ⟨"0.2", "0", 3, .zero, "a://b/c"⟩, ⟨"0.10", "0", 1, .zero, "a://b/d"⟩]⟩

theorem crowdedSite_pages : ∀ entry ∈ crowdedSite, ∀ page, entry.2 = .page page →
    IsFetched page ∧ ∀ link ∈ page.links, IsTidy link := by
  intro entry member page found
  simp only [crowdedSite, List.mem_cons, List.not_mem_nil, or_false] at member
  obtain rfl | rfl | rfl := member
  · cases found
    exact ⟨⟨⟨"text/html".toUTF8.toList, by decide +kernel⟩, by decide⟩, by decide +kernel⟩
  · cases found
    exact ⟨⟨⟨"image/png".toUTF8.toList, by decide +kernel⟩, by decide⟩, by decide +kernel⟩
  · cases found
    exact ⟨⟨⟨"image/png".toUTF8.toList, by decide +kernel⟩, by decide⟩, by decide +kernel⟩

theorem crowdedSite_crawls : ∃ rounds, Crawls 1 crowdedInput rounds ∧ (∀ round ∈ rounds, Regular round) ∧
    .page crowdedPage ∈ read (printed .csv rounds).toUTF8.toList := by
  obtain ⟨rounds, crawls, asked, events⟩ := runSite_crawls crowdedSite crowdedInput
  have reports := Crawled.reports_events rounds
  rw [← events] at reports
  have lengths : (((runSite crowdedSite crowdedInput).events.filterMap (·.report?)).map (·.bytes)).sum <
      UInt64.size := by decide +kernel
  rw [reports] at lengths
  refine ⟨rounds, crawls, ?_, ?_⟩
  · exact regular_of_site crawls asked (by decide +kernel) crowdedSite_pages lengths
  · rw [printed, ← events]
    decide +kernel

theorem children_by_position_crowded : ∃ rounds, Crawls 1 crowdedInput rounds ∧
    (∀ round ∈ rounds, Regular round) ∧ .page crowdedPage ∈ read (printed .csv rounds).toUTF8.toList ∧
    ∃ round ∈ rounds, crowdedPage.Records round ∧
      ∀ id, ∃ indices, Siblings round crowdedPage id indices ∧
        (indices.Pairwise (· < ·) ↔ ∀ i ∈ indices, ∀ j ∈ indices, i < j → FractionLE i j) ∧
        ((∀ i ∈ indices, ∀ j ∈ indices, digitCount i = digitCount j) → indices.Pairwise (· < ·)) := by
  obtain ⟨rounds, crawls, regular, member⟩ := crowdedSite_crawls
  exact ⟨rounds, crawls, regular, member, children_by_position crawls regular member⟩

/-- The assets in positions 2 and 10 of a page come back the other way around. -/
theorem children_out_of_order :
    ¬ ∀ (workers : Nat) (input : List UInt8) (rounds : List Crawled), Crawls workers input rounds →
      (∀ round ∈ rounds, Regular round) → ∀ page : Page,
      .page page ∈ read (printed .csv rounds).toUTF8.toList →
      ∀ id, ∃ indices : List Nat, page.children id = indices.map (childId id) ∧
        indices.Pairwise (· < ·) := by
  intro inOrder
  obtain ⟨rounds, crawls, regular, member⟩ := crowdedSite_crawls
  obtain ⟨indices, listed, increasing⟩ := inOrder 1 crowdedInput rounds crawls regular crowdedPage member "0"
  have recorded (index : Nat) (below : ∃ asset ∈ crowdedPage.records, asset.id = childId "0" index ∧
      asset.parentId = "0" ∧ childId "0" index ≠ "0") : index ∈ indices := by
    rw [← Page.mem_children, listed] at below
    exact (List.mem_map_of_injective fun _ _ same => (childId_injective same).2).mp below
  have strict : (crowdedPage.children "0").Pairwise (· < ·) := Page.children_strict (by decide) "0"
  rw [listed, List.pairwise_map] at strict
  have sorted := strict.imp fun {i j} less => (childId_lt_iff "0" i j).mp less
  have leads := (pairwise_lt_iff sorted).mp increasing 2 (recorded 2 (by decide)) 10
    (recorded 10 (by decide)) (by decide)
  exact absurd leads (by decide)

end PageLoad.Trace

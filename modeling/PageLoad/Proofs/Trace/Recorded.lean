import PageLoad.Proofs.Crawl.Reports
import PageLoad.Proofs.Crawl.Run
import PageLoad.Proofs.Fetch.Page
import PageLoad.Proofs.Trace.Page
import PageLoad.Proofs.Trace.Reader

/-!
What a crawl prints is read without loss: each round that has reported a task comes back as one
page with the whole tree of its assets.
-/

namespace PageLoad.Trace
open Number Text Crawl

/-! What a round needs so that its lines can be read. -/

/-- What holds of a page because of how it is fetched. Its content type comes out of a header, if it
has one, and the seconds of a length of time are counted in 64 bits. -/
structure IsFetched (page : Fetch.Page) : Prop where
  contentType : ∃ value : Option (List UInt8),
    page.contentType = Fetch.contentTypeOf (value.bind Http.valueText?)
  elapsed : page.elapsed < UInt64.size * nanosecondsPerSecond

structure IsTidy (url : String) : Prop where
  plain : '\n' ∉ url.toList
  bare : trim url.toList = url.toList

instance (url : String) : Decidable (IsTidy url) :=
  decidable_of_iff ('\n' ∉ url.toList ∧ trim url.toList = url.toList)
    ⟨fun ⟨plain, bare⟩ => ⟨plain, bare⟩, fun ⟨plain, bare⟩ => ⟨plain, bare⟩⟩

/-- A round whose pages have been fetched, whose URLs are tidy and whose bytes can be counted. -/
structure Regular (round : Crawled) : Prop where
  fetched : ∀ task ∈ round.progress.accepted, ∀ page, round.fetch task.url = .page page → IsFetched page
  seed : IsTidy round.seed.url.text
  links : ∀ task ∈ round.progress.accepted, ∀ page, round.fetch task.url = .page page →
    ∀ link ∈ page.links, IsTidy link
  total : (round.reports.map (·.bytes)).sum < UInt64.size

theorem newline_not_mem_rank {input : List UInt8} {seed : Seed}
    (member : seed ∈ seedsOf (Lines.ofBytes input).lines) : '\n' ∉ seed.rank.toList := by
  obtain ⟨line, present, read⟩ := List.mem_filterMap.mp member
  have plain := Lines.newline_not_mem present
  have parsed : Seed.parse line = .ok seed := by
    cases found : Seed.parse line with
    | error error => simp [found, Except.toOption] at read
    | ok other => simp_all [Except.toOption]
  obtain ⟨target, split, _⟩ := Seed.parse_split parsed
  exact fun inside => plain (split ▸ List.mem_append_left _ inside)

theorem Regular.recordable {round : Crawled} (regular : Regular round)
    (finished : Progress.Finished round.fetch round.seed.url.text round.progress)
    {report : TaskReport} (reported : report ∈ round.reports) : Recordable report := by
  have counted : report.bytes ≤ (round.reports.map (·.bytes)).sum :=
    List.le_sum_of_mem (List.mem_map_of_mem reported)
  obtain ⟨task, member, page, found, rfl⟩ := finished.mem_reports.mp reported
  have ⟨id, parentId⟩ := finished.rooted.id_dotted member
  have ⟨⟨value, contentType⟩, elapsed⟩ := regular.fetched task member page found
  have tidy : IsTidy task.url := finished.rooted.holds_url regular.seed regular.links member
  refine ⟨id, parentId, ?_, counted.trans_lt regular.total, ⟨page.elapsed, elapsed, rfl⟩,
    tidy.plain, tidy.bare⟩
  change ∀ c ∈ page.contentType.toList, _
  rw [contentType]
  exact Fetch.contentTypeOf_plain value

theorem Regular.readable {round : Crawled} (regular : Regular round) {workers : Nat}
    (crawled : round.IsBy workers) (rank : '\n' ∉ round.seed.rank.toList) : Readable round := by
  have ⟨finished, counted⟩ := crawled.finished
  exact ⟨⟨rank, counted.rank⟩, regular.seed.plain,
    fun _ reported => regular.recordable finished reported, regular.total⟩

/-! The tree of a page. -/

/-- A page records a round: it has an asset for each line, its root and all parents among them, and
its bytes are those that the round has counted. -/
structure Page.Records (round : Crawled) (page : Page) : Prop where
  assets : List.Forall₂ Asset.Records round.reports page.records
  distinct : (page.records.map (·.id)).Nodup
  named : ∀ asset ∈ page.records, page.asset? asset.id = some asset
  root : ∃ root, page.root? = some root
  parent : ∀ asset ∈ page.records, ∃ parent, page.asset? asset.parentId = some parent
  total : page.totalBytes = round.summary.bytes

theorem Page.Records.log {round : Crawled} {page : Page} (records : page.Records round) :
    page.log = [] := by
  have orphans : (page.records.filter fun asset =>
      asset.id ≠ asset.parentId && (page.asset? asset.parentId).isNone) = [] := by
    apply List.filter_eq_nil_iff.mpr
    intro asset member orphan
    obtain ⟨parent, found⟩ := records.parent asset member
    simp [found] at orphan
  simp only [Page.log, Page.orphans, orphans, List.map_nil, List.eraseDups_nil, List.mergeSort_nil]

theorem logs_of_records {rounds : List Crawled} {pages : List Page}
    (records : List.Forall₂ Page.Records rounds pages) : pages.flatMap (·.log) = [] := by
  induction records with
  | nil => rfl
  | cons first _ ih => rw [List.flatMap_cons, first.log, ih, List.nil_append]

theorem ids_of_records {reports : List TaskReport} {assets : List Asset}
    (same : List.Forall₂ Asset.Records reports assets) :
    assets.map (fun asset => (asset.id, asset.parentId)) =
      reports.map fun report => (report.id, report.parentId) := by
  induction same with
  | nil => rfl
  | cons first _ ih => rw [List.map_cons, List.map_cons, ih, first.id, first.parentId]

theorem match_of_mem {α β : Type} {Matches : α → β → Prop} {left : List α} {right : List β}
    (same : List.Forall₂ Matches left right) {known : β} (member : known ∈ right) :
    ∃ matching ∈ left, Matches matching known := by
  obtain ⟨place, bound, rfl⟩ := List.getElem_of_mem member
  have inside : place < left.length := same.length_eq ▸ bound
  exact ⟨_, List.getElem_mem inside, same.get inside bound⟩

theorem mem_pairs {reports : List TaskReport} {assets : List Asset}
    (same : List.Forall₂ Asset.Records reports assets) {id parentId : String} :
    (∃ asset ∈ assets, asset.id = id ∧ asset.parentId = parentId) ↔
      ∃ report ∈ reports, report.id = id ∧ report.parentId = parentId := by
  have pairs := congrArg ((id, parentId) ∈ ·) (ids_of_records same)
  simpa using pairs

theorem isTree_of_records {round : Crawled} {page : Page}
    (same : List.Forall₂ Asset.Records round.reports page.records) {workers : Nat}
    (crawled : round.IsBy workers) (reporting : round.reports ≠ []) : page.IsTree := by
  have ⟨finished, _⟩ := crawled.finished
  have ids : page.records.map (·.id) = round.reports.map (·.id) := by
    have first := congrArg (List.map Prod.fst) (ids_of_records same)
    rwa [List.map_map, List.map_map] at first
  refine ⟨⟨?_, ?_⟩, ?_⟩
  · rw [ids]
    exact finished.reports_ids_nodup
  · obtain ⟨report, reported⟩ := List.exists_mem_of_ne_nil _ reporting
    obtain ⟨root, present, named⟩ := finished.root_reported reported
    exact (mem_pairs same).mpr ⟨root, present, named⟩
  · intro asset member
    obtain ⟨report, reported, id, parentId⟩ := (mem_pairs same).mp ⟨asset, member, rfl, rfl⟩
    obtain ⟨isRoot, _⟩ | ⟨parent, present, named, shorter⟩ := finished.reported_below reported
    · exact .inl (id.symm.trans isRoot)
    · obtain ⟨above, recorded, same, _⟩ := (mem_pairs same).mpr ⟨parent, present, rfl, rfl⟩
      refine .inr ⟨above, recorded, same.trans (named.trans parentId), ?_⟩
      rw [same, ← id]
      exact shorter

theorem Page.IsOf.records {round : Crawled} {page : Page} (same : page.IsOf round) {workers : Nat}
    (crawled : round.IsBy workers) (reporting : round.reports ≠ [])
    (total : (round.reports.map (·.bytes)).sum < UInt64.size) : page.Records round := by
  have ⟨_, counted⟩ := crawled.finished
  have tree := isTree_of_records same crawled reporting
  refine ⟨same, tree.distinct, fun _ member => Page.asset?_of_distinct tree.distinct member,
    tree.toIsGrounded.root_isSome, fun _ member => tree.parent_isSome member, ?_⟩
  rw [totalBytes_of_records same]
  exact ((counted.reports.2).trans (Nat.mod_eq_of_lt total)).symm

theorem read_pages {workers : Nat} {input : List UInt8} {rounds : List Crawled}
    (crawls : Crawls workers input rounds) (regular : ∀ round ∈ rounds, Regular round) :
    ∃ pages, List.Forall₂ Page.Records (reporting rounds) pages ∧
      read (printed .csv rounds).toUTF8.toList = pages.map .page := by
  have readable : ∀ round ∈ rounds, Readable round := by
    intro round member
    have seed : round.seed ∈ seedsOf (Lines.ofBytes input).lines :=
      crawls.seeds ▸ List.mem_map_of_mem member
    exact (regular round member).readable (crawls.crawled round member) (newline_not_mem_rank seed)
  obtain ⟨pages, same, read⟩ := read_printed readable
  have ended : ∀ round ∈ reporting rounds,
      round.IsBy workers ∧ round.reports ≠ [] ∧ (round.reports.map (·.bytes)).sum < UInt64.size := by
    intro round member
    obtain ⟨present, told⟩ := List.mem_filter.mp member
    exact ⟨crawls.crawled round present, of_decide_eq_true told, (regular round present).total⟩
  refine ⟨pages, ?_, read⟩
  exact (List.forall₂_and_left _ _ |>.mpr ⟨ended, same⟩).imp fun round page both =>
    both.2.records both.1.1 both.1.2.1 both.1.2.2

theorem records_of_read {workers : Nat} {input : List UInt8} {rounds : List Crawled}
    (crawls : Crawls workers input rounds) (regular : ∀ round ∈ rounds, Regular round) {page : Page}
    (member : .page page ∈ read (printed .csv rounds).toUTF8.toList) :
    ∃ round ∈ reporting rounds, page.Records round := by
  obtain ⟨pages, records, read⟩ := read_pages crawls regular
  rw [read, List.mem_map] at member
  obtain ⟨_, recorded, same⟩ := member
  cases same
  exact match_of_mem records recorded

theorem isTree_of_read {workers : Nat} {input : List UInt8} {rounds : List Crawled}
    (crawls : Crawls workers input rounds) (regular : ∀ round ∈ rounds, Regular round) {page : Page}
    (member : .page page ∈ read (printed .csv rounds).toUTF8.toList) :
    page.IsTree ∧ page.records.length ≤ (rounds.flatMap (·.reports)).length := by
  obtain ⟨round, told, ofRound⟩ := records_of_read crawls regular member
  have ⟨present, reports⟩ := List.mem_filter.mp told
  refine ⟨isTree_of_records ofRound.assets (crawls.crawled round present) (of_decide_eq_true reports), ?_⟩
  rw [← ofRound.assets.length_eq]
  exact (List.sublist_flatten_of_mem (List.mem_map_of_mem present)).length_le

theorem regular_of_site {site : Fetch.Site} {workers : Nat} {input : List UInt8} {rounds : List Crawled}
    (crawls : Crawls workers input rounds) (asked : ∀ round ∈ rounds, round.fetch = site.fetch)
    (seeds : ∀ seed ∈ seedsOf (Text.Lines.ofBytes input).lines, IsTidy seed.url.text)
    (pages : ∀ entry ∈ site, ∀ page, entry.2 = .page page →
      IsFetched page ∧ ∀ link ∈ page.links, IsTidy link)
    (few : ((rounds.flatMap (·.reports)).map (·.bytes)).sum < UInt64.size) :
    ∀ round ∈ rounds, Regular round := by
  intro round member
  have decent (url : String) (page : Fetch.Page) (found : round.fetch url = .page page) :
      IsFetched page ∧ ∀ link ∈ page.links, IsTidy link := by
    rw [asked round member] at found
    exact pages (url, .page page) (Fetch.Site.mem_of_fetch found) page rfl
  exact ⟨fun _ _ page found => (decent _ page found).1, seeds _ (crawls.seeds ▸ List.mem_map_of_mem member),
    fun _ _ page found => (decent _ page found).2, (Crawled.bytes_le member).trans_lt few⟩

/-! A page with one picture. -/

def pictureUrl : Url where
  scheme := "a"
  authority := some ⟨"", "", .name "b", none⟩
  path := .segments []
  query := none
  fragment := none

def pictureSite : Fetch.Site :=
  [("a://b", .page ⟨pictureUrl, "text/html", "<img src=c>".toUTF8.toList, 250000000⟩),
    ("a://b/c", .page ⟨pictureUrl, "image/png", [1, 2, 3], 1250000000⟩)]

theorem pictureSite_pages {url : String} {page : Fetch.Page} (found : pictureSite.fetch url = .page page) :
    page = ⟨pictureUrl, "text/html", "<img src=c>".toUTF8.toList, 250000000⟩ ∨
      page = ⟨pictureUrl, "image/png", [1, 2, 3], 1250000000⟩ := by
  have listed := Fetch.Site.mem_of_fetch found
  simp only [pictureSite, List.mem_cons, Prod.mk.injEq, List.not_mem_nil, or_false] at listed
  obtain ⟨_, same⟩ | ⟨_, same⟩ := listed
  · exact .inl (Fetch.Outcome.page.inj same)
  · exact .inr (Fetch.Outcome.page.inj same)

theorem pictureSite_crawls : ∃ rounds, Crawls 1 "1,a://b\n".toUTF8.toList rounds ∧
    (∀ round ∈ rounds, round.fetch = pictureSite.fetch) ∧ reporting rounds ≠ [] ∧
    ∀ round ∈ rounds, (round.reports.map (·.bytes)).sum ≤ 14 := by
  obtain ⟨rounds, crawls, fetch, events⟩ := runSite_crawls pictureSite "1,a://b\n".toUTF8.toList
  have reports := Crawled.reports_events rounds
  rw [← events] at reports
  have lengths : (((runSite pictureSite "1,a://b\n".toUTF8.toList).events.filterMap (·.report?)).map
      (·.bytes)) = [11, 3] := by decide +kernel
  rw [reports] at lengths
  refine ⟨rounds, crawls, fetch, ?_, ?_⟩
  · intro none
    have silent : rounds.flatMap (·.reports) = [] := by
      rw [List.flatMap_eq_nil_iff]
      intro round member
      simpa using List.filter_eq_nil_iff.mp none round member
    rw [silent] at lengths
    cases lengths
  · intro round member
    have few := Crawled.bytes_le member
    rwa [lengths] at few

/-- What a crawl has printed is read, line by line and without a word about any of them, as one page
for each round that has reported a task, with all that the lines of the round say. -/
theorem read_crawl {workers : Nat} {input : List UInt8} {rounds : List Crawled}
    (crawls : Crawls workers input rounds) (regular : ∀ round ∈ rounds, Regular round) :
    ∃ pages, List.Forall₂ Page.Records (reporting rounds) pages ∧
      read (printed .csv rounds).toUTF8.toList = pages.map .page ∧
      (read (printed .csv rounds).toUTF8.toList).flatMap (·.log) = [] := by
  obtain ⟨pages, records, read⟩ := read_pages crawls regular
  refine ⟨pages, records, read, ?_⟩
  rw [read, List.flatMap_map]
  exact logs_of_records records

theorem read_crawl_picture : ∃ rounds, Crawls 1 "1,a://b\n".toUTF8.toList rounds ∧
    (∀ round ∈ rounds, Regular round) ∧ reporting rounds ≠ [] ∧
    ∃ pages, List.Forall₂ Page.Records (reporting rounds) pages ∧
      read (printed .csv rounds).toUTF8.toList = pages.map .page ∧
      (read (printed .csv rounds).toUTF8.toList).flatMap (·.log) = [] := by
  obtain ⟨rounds, crawls, fetch, told, few⟩ := pictureSite_crawls
  have seeds : ∀ seed ∈ seedsOf (Lines.ofBytes "1,a://b\n".toUTF8.toList).lines,
      IsTidy seed.url.text := by decide +kernel
  have regular : ∀ round ∈ rounds, Regular round := by
    intro round member
    refine ⟨?_, seeds _ (crawls.seeds ▸ List.mem_map_of_mem member), ?_,
      (few round member).trans_lt (by decide)⟩
    · intro task _ page found
      obtain rfl | rfl := pictureSite_pages (fetch round member ▸ found)
      · exact ⟨⟨"text/html".toUTF8.toList, by decide +kernel⟩, by decide⟩
      · exact ⟨⟨"image/png".toUTF8.toList, by decide +kernel⟩, by decide⟩
    · intro task _ page found
      obtain rfl | rfl := pictureSite_pages (fetch round member ▸ found)
      · decide +kernel
      · decide +kernel
  exact ⟨rounds, crawls, regular, told, read_crawl crawls regular⟩

end PageLoad.Trace

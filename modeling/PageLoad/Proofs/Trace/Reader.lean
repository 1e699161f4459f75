import PageLoad.Crawl.Workers
import PageLoad.Proofs.Trace.Asset
import Mathlib.Data.List.Forall2

/-!
What a crawl has printed is read as one page for each round that has reported a task. The three
kinds of lines are told apart by how they begin.
-/

namespace PageLoad.Trace
open Number Text Crawl

/-! The lines that open and close a round. -/

theorem newline_not_mem_toString (n : Nat) : '\n' ∉ (toString n).toList := fun member =>
  absurd (isDigit_of_mem member) (by decide)

theorem printable_roundStart {rank url : String} (plainRank : '\n' ∉ rank.toList)
    (plainUrl : '\n' ∉ url.toList) : Printable (Event.roundStart rank url).csv := by
  constructor
  · simp only [Event.csv, String.toList_append, List.mem_append, not_or]
    exact ⟨⟨⟨⟨by decide, plainRank⟩, by decide⟩, plainUrl⟩, by decide⟩
  · rw [Event.csv, String.toList_append]
    exact bare_append _ (by decide) (by decide)

theorem roundEnd_toList (summary : RoundSummary) :
    (Event.roundEnd summary).csv.toList = '#' :: (summary.rank.toList ++ ',' ::
      (summary.elapsed.fixed.toList ++ ',' :: ((toString summary.tasks).toList ++ ',' ::
        (toString summary.bytes).toList))) := by
  simp [Event.csv, RoundSummary.csv]

theorem printable_roundEnd {summary : RoundSummary} (plainRank : '\n' ∉ summary.rank.toList) :
    Printable (Event.roundEnd summary).csv := by
  constructor
  · rw [roundEnd_toList]
    simp only [List.mem_append, List.mem_cons, not_or]
    exact ⟨by decide, plainRank, by decide, (fixed_plain _).2, by decide,
      newline_not_mem_toString _, by decide, newline_not_mem_toString _⟩
  · have split : ∃ front, (Event.roundEnd summary).csv.toList =
        front ++ ',' :: (toString summary.bytes).toList := by
      rw [roundEnd_toList]
      simp only [← List.cons_append, ← List.append_assoc]
      exact ⟨_, rfl⟩
    obtain ⟨front, split⟩ := split
    rw [split]
    refine bare_append front (by decide) fun ended => ?_
    exact absurd (isDigit_of_mem (List.mem_of_getLast? ended)) (by decide)

theorem isMarker_roundStart (rank url : String) :
    isMarker (Event.roundStart rank url).csv = true := by
  simp [isMarker, Event.csv, List.isPrefixOf]

theorem roundEnd_passed (summary : RoundSummary) :
    isMarker (Event.roundEnd summary).csv = false ∧
      isPassedOver (Event.roundEnd summary).csv = true := by
  rw [isMarker, isPassedOver, roundEnd_toList]
  simp [List.isPrefixOf]

theorem text_toList (events : List Event) :
    (Event.text .csv events).toList = (events.map (·.csv)).flatMap fun line => line.toList ++ ['\n'] := by
  simp [Event.text, Event.line, String.toList_join, List.flatMap_map]

/-! Reading the lines of a round. -/

theorem steps_reports (flaw : Option Utf8.Flaw) (records : List Asset) (rest : List String)
    {reports : List TaskReport} (recordable : ∀ report ∈ reports, Recordable report) :
    ∃ assets, List.Forall₂ Asset.Records reports assets ∧
      steps flaw records (reports.map (·.csv) ++ rest) = steps flaw (records ++ assets) rest := by
  induction reports generalizing records with
  | nil => exact ⟨[], .nil, by simp⟩
  | cons report reports ih =>
    have first := recordable report List.mem_cons_self
    obtain ⟨asset, parsed, same⟩ := first.parse_csv
    obtain ⟨assets, others, read⟩ :=
      ih (records ++ [asset]) fun other member => recordable other (List.mem_cons_of_mem _ member)
    refine ⟨asset :: assets, .cons same others, ?_⟩
    rw [List.map_cons, List.cons_append, steps, first.csv_proper.1, first.csv_proper.2, parsed]
    simpa using read

structure Readable (round : Crawled) : Prop where
  rank : '\n' ∉ round.seed.rank.toList ∧ round.summary.rank = round.seed.rank
  url : '\n' ∉ round.seed.url.text.toList
  reports : ∀ report ∈ round.reports, Recordable report
  total : (round.reports.map (·.bytes)).sum < UInt64.size

theorem Readable.printable {round : Crawled} (readable : Readable round) :
    ∀ line ∈ round.events.map (·.csv), Printable line := by
  intro line member
  obtain ⟨event, present, rfl⟩ := List.mem_map.mp member
  rw [Crawled.events, List.cons_append, List.mem_cons, List.mem_append, List.mem_singleton] at present
  rcases present with rfl | task | rfl
  · exact printable_roundStart readable.rank.1 readable.url
  · obtain ⟨report, reported, rfl⟩ := List.mem_map.mp task
    exact (readable.reports report reported).printable_csv
  · exact printable_roundEnd (readable.rank.2 ▸ readable.rank.1)

/-- A round closes the page that is open and leaves its own open. -/
theorem steps_round {round : Crawled} (readable : Readable round) (records : List Asset)
    (rest : List String) :
    ∃ assets, List.Forall₂ Asset.Records round.reports assets ∧
      steps none records (round.events.map (·.csv) ++ rest) =
        close records (steps none assets rest) := by
  obtain ⟨assets, same, read⟩ := steps_reports none []
    ((Event.roundEnd round.summary).csv :: rest) readable.reports
  have ended := roundEnd_passed round.summary
  refine ⟨assets, same, ?_⟩
  have lines : round.events.map (·.csv) ++ rest =
      (Event.roundStart round.seed.rank round.seed.url.text).csv ::
        (round.reports.map (·.csv) ++ (Event.roundEnd round.summary).csv :: rest) := by
    simp [Crawled.events, Event.csv]
  rw [lines, steps, isMarker_roundStart, if_pos rfl, read, List.nil_append, steps, ended.1, ended.2,
    if_neg Bool.false_ne_true, if_pos rfl]

theorem totalBytes_of_records {reports : List TaskReport} {assets : List Asset}
    (same : List.Forall₂ Asset.Records reports assets) :
    (Page.mk assets).totalBytes = (reports.map (·.bytes)).sum := by
  induction same with
  | nil => rfl
  | cons first _ ih =>
    rw [List.map_cons, List.sum_cons, ← ih, ← first.length]
    rfl

def Page.IsOf (round : Crawled) (page : Page) : Prop :=
  List.Forall₂ Asset.Records round.reports page.records

def reporting (rounds : List Crawled) : List Crawled := rounds.filter (·.reports ≠ [])

theorem close_reported {round : Crawled} (readable : Readable round) {assets : List Asset}
    (same : List.Forall₂ Asset.Records round.reports assets) (next : List Step) :
    close assets next =
      if round.reports = [] then next else .page ⟨assets⟩ :: next := by
  have total := readable.total
  rw [← totalBytes_of_records same] at total
  generalize round.reports = reports at same ⊢
  cases same with
  | nil => rfl
  | cons first others => simp only [close, Page.ofRecords?, total, if_true, reduceCtorEq, if_false]

theorem steps_rounds {rounds : List Crawled} (readable : ∀ round ∈ rounds, Readable round)
    (records : List Asset) :
    ∃ pages, List.Forall₂ Page.IsOf (reporting rounds) pages ∧
      steps none records ((rounds.flatMap (·.events)).map (·.csv)) =
        close records (pages.map .page) := by
  induction rounds generalizing records with
  | nil => exact ⟨[], .nil, rfl⟩
  | cons round rounds ih =>
    have first := readable round List.mem_cons_self
    obtain ⟨assets, same, opened⟩ :=
      steps_round first records ((rounds.flatMap (·.events)).map (·.csv))
    obtain ⟨pages, others, read⟩ :=
      ih (fun other member => readable other (List.mem_cons_of_mem _ member)) assets
    rw [List.flatMap_cons, List.map_append, opened, read, close_reported first same]
    by_cases silent : round.reports = []
    · refine ⟨pages, ?_, by rw [if_pos silent]⟩
      rw [reporting, List.filter_cons_of_neg (by simpa using silent)]
      exact others
    · refine ⟨⟨assets⟩ :: pages, ?_, by rw [if_neg silent]; rfl⟩
      rw [reporting, List.filter_cons_of_pos (by simpa using silent)]
      exact .cons same others

theorem read_printed {rounds : List Crawled} (readable : ∀ round ∈ rounds, Readable round) :
    ∃ pages, List.Forall₂ Page.IsOf (reporting rounds) pages ∧
      read (printed .csv rounds).toUTF8.toList = pages.map .page := by
  have printable : ∀ line ∈ (rounds.flatMap (·.events)).map (·.csv), Printable line := by
    intro line member
    rw [List.map_flatMap, List.mem_flatMap] at member
    obtain ⟨round, present, inside⟩ := member
    exact (readable round present).printable line inside
  have lines := Lines.ofBytes_printed _ printable
  obtain ⟨pages, same, read⟩ := steps_rounds readable []
  refine ⟨pages, same, ?_⟩
  rw [Trace.read, Utf8.toUTF8_toList, printed, text_toList, lines]
  exact read

end PageLoad.Trace

import PageLoad.Proofs.Crawl.PoolEnding
import PageLoad.Proofs.Text.Lines

/-!
What comes of a crawl does not depend on what the same pool has crawled before: a crawl of one input
after another is the crawl of the first, gone on with by the crawl of the second.
-/

namespace PageLoad.Crawl
open Number Work Fetch

variable {site : Site} {workers : Nat} {pool : Pool}

/-- A pool that nothing has been asked of yet, or that has come to the end of one input after another. -/
inductive Pool.IsFree (fetch : String → Outcome) (workers : Nat) : Pool → Prop where
  | start : IsFree fetch workers (start workers)
  | crawl {pool last : Pool} {schedule : List Actor} (free : IsFree fetch workers pool)
    (input : List UInt8)
    (ran : (pool.read (Text.Lines.ofBytes input).lines).runSingly? fetch schedule = some last)
    (done : last.IsDone) : IsFree fetch workers last

/-- Whenever no two of its workers are busy at the same time, a pool comes to the end of an input, and
what has happened then is a history after what had happened before. -/
structure Pool.CrawlsInOrder (fetch : String → Outcome) (pool : Pool) (input : List UInt8)
    (history : History) : Prop where
  stops : (pool.read (Text.Lines.ofBytes input).lines).EndsSingly fetch
  same : ∀ schedule last,
    (pool.read (Text.Lines.ofBytes input).lines).runSingly? fetch schedule = some last → last.IsDone →
    last.happenings = pool.happenings ++ history.happenings ∧
      last.fetched = pool.fetched ++ history.fetched
  flaw : history.flaw = (Text.Lines.ofBytes input).flaw

theorem Pool.IsFree.governed (free : pool.IsFree site.fetch workers) :
    pool.IsDone ∧ ∃ lines, pool.Governed Single site workers lines := by
  induction free with
  | start => exact ⟨rfl, [], governed_start (isRule_single site.fetch) workers⟩
  | crawl _ input ran done ih =>
    obtain ⟨ready, lines, governed⟩ := ih
    exact ⟨done, _, (governed.read ready _).run (isRule_single _) (runs_of_runSingly? ran)⟩

theorem Pool.IsFree.crawlsInOrder (free : pool.IsFree site.fetch workers) (manned : workers ≠ 0)
    (input : List UInt8) : pool.CrawlsInOrder site.fetch input (runSite site input) := by
  obtain ⟨ready, lines, governed⟩ := free.governed
  have given := governed.read ready (Text.Lines.ofBytes input).lines
  refine ⟨given.endsSingly manned, fun schedule last ran done => ?_, rfl⟩
  obtain ⟨happenings, fetched⟩ := (governed.told.of_done ready).inOrder
  have after := given.run (isRule_single _) (runs_of_runSingly? ran)
  obtain ⟨happenings', fetched'⟩ := (after.told.of_done done).inOrder
  rw [happenings, fetched, happenings', fetched', List.flatMap_append, List.filterMap_append]
  exact ⟨rfl, rfl⟩

/-- Whether one history is another gone on with. What is printed, in any format, and what is fetched
comes one after the other, and the rounds are added up unless the second crawl has failed. -/
structure History.Joins (first second whole : History) : Prop where
  printed : ∀ format, Event.text format whole.events =
    Event.text format first.events ++ Event.text format second.events
  fetched : whole.fetched = first.fetched ++ second.fetched
  result : ∃ rounds, first.result = .ok rounds ∧ whole.result = second.result.map (rounds + ·)

theorem Event.text_cons (format : ReportFormat) (event : Event) (events : List Event) :
    text format (event :: events) = event.line format ++ "\n" ++ text format events :=
  String.join_cons

theorem Event.text_append (format : ReportFormat) (first second : List Event) :
    Event.text format (first ++ second) = Event.text format first ++ Event.text format second := by
  rw [text, List.map_append, String.join_append]
  rfl

theorem History.joins_append (first second : List Happening) (flaw : Option Text.Utf8.Flaw) :
    Joins ⟨first, none⟩ ⟨second, flaw⟩ ⟨first ++ second, flaw⟩ where
  printed format := by
    rw [events, List.filterMap_append, Event.text_append]
    rfl
  fetched := List.filterMap_append
  result := by
    refine ⟨_, rfl, ?_⟩
    cases flaw with
    | some flaw => rfl
    | none =>
      simp only [result, events, List.filterMap_append, List.countP_append]
      rfl

theorem runSite_joins (site : Site) {front : List Char} (ended : front = [] ∨ front.getLast? = some '\n')
    (back : List UInt8) :
    (runSite site (Text.Utf8.encode front)).Joins (runSite site back)
      (runSite site (Text.Utf8.encode front ++ back)) := by
  obtain ⟨lines, first, split⟩ := Text.Lines.ofBytes_append ended
  simp only [runSite, run, first, split, List.flatMap_append]
  exact History.joins_append _ _ _

/-- A pool crawls one input after another as it would crawl each of them alone. -/
theorem crawl_append (site : Site) (workers : Nat) {front : String}
    (ended : front = "" ∨ front.toList.getLast? = some '\n') (back : List UInt8) :
    (∀ pool : Pool, pool.IsFree site.fetch (poolSize workers) → ∀ input,
      pool.CrawlsInOrder site.fetch input (runSite site input)) ∧
    (runSite site front.toUTF8.toList).Joins (runSite site back)
      (runSite site (front.toUTF8.toList ++ back)) := by
  have manned : poolSize workers ≠ 0 := Nat.ne_of_gt (Nat.le_max_right workers 1)
  have ended' : front.toList = [] ∨ front.toList.getLast? = some '\n' :=
    ended.imp_left (congrArg String.toList)
  refine ⟨fun pool free => free.crawlsInOrder manned, ?_⟩
  rw [Text.Utf8.toUTF8_toList]
  exact runSite_joins site ended' back

def crashSite : Site := [("a://b", .crashed .wordless)]

/-- Neither that page nor the line that is no seed keep it from being asked for again. -/
theorem crawl_append_crash :
    "1,a://b\nc\n".toList.getLast? = some '\n' ∧
    (Pool.start 5).CrawlsInOrder crashSite.fetch
      ("1,a://b\nc\n".toUTF8.toList ++ "2,a://b".toUTF8.toList)
      (runSite crashSite ("1,a://b\nc\n".toUTF8.toList ++ "2,a://b".toUTF8.toList)) ∧
    (runSite crashSite "1,a://b\nc\n".toUTF8.toList).fetched = ["a://b"] ∧
    (runSite crashSite ("1,a://b\nc\n".toUTF8.toList ++ "2,a://b".toUTF8.toList)).fetched =
      ["a://b", "a://b"] ∧
    (runSite crashSite ("1,a://b\nc\n".toUTF8.toList ++ "2,a://b".toUTF8.toList)).result = .ok 2 := by
  have ended : "1,a://b\nc\n".toList.getLast? = some '\n' := by decide
  have first : (runSite crashSite "1,a://b\nc\n".toUTF8.toList).fetched = ["a://b"] ∧
      (runSite crashSite "1,a://b\nc\n".toUTF8.toList).result = .ok 1 := by decide +kernel
  have second : (runSite crashSite "2,a://b".toUTF8.toList).fetched = ["a://b"] ∧
      (runSite crashSite "2,a://b".toUTF8.toList).result = .ok 1 := by decide +kernel
  have ⟨crawls, joins⟩ := crawl_append crashSite 5 (.inr ended) "2,a://b".toUTF8.toList
  obtain ⟨rounds, counted, summed⟩ := joins.result
  obtain rfl : 1 = rounds := Except.ok.inj (first.2.symm.trans counted)
  refine ⟨ended, crawls (Pool.start 5) .start _, first.1, ?_, ?_⟩
  · rw [joins.fetched, first.1, second.1]
    rfl
  · rw [summed, second.2]
    rfl

end PageLoad.Crawl

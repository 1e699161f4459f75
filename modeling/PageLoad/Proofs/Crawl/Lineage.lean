import PageLoad.Proofs.Crawl.BreadthFirst
import PageLoad.Proofs.Crawl.Reports

/-!
The lines of a round that is worked through in order, as a tree. Each but the first stands below the
line of a page that has been printed before, and says which of that page's assets it is about.
-/

namespace PageLoad.Crawl
open Work Fetch

variable {fetch : String → Outcome} {seedUrl : String}

/-- The asset of a line is loaded by the page of another, which is the first page that loads it, and
the id says in which position. -/
structure TaskReport.Below (fetch : String → Outcome) (fetched : List String)
    (report parent : TaskReport) : Prop where
  parentId : report.parentId = parent.id
  depth : report.depth = parent.depth + 1
  position : ∃ page, fetch parent.url = .page page ∧ report.url ∈ page.links ∧
    report.id = parent.id ++ "." ++ toString (page.links.idxOf report.url)
  earliest : ∃ earlier later, fetched = earlier ++ parent.url :: later ∧
    ∀ url ∈ earlier, ¬ Links fetch url report.url

/-- Some lines form a tree, the root first and each other line after the one that it is below. -/
structure Lineage (fetch : String → Outcome) (seedUrl : String) (fetched : List String)
    (reports : List TaskReport) : Prop where
  ids : (reports.map (·.id)).Nodup
  urls : (reports.map (·.url)).Nodup
  root : ∀ first rest, reports = first :: rest →
    first.id = "0" ∧ first.parentId = "0" ∧ first.depth = 0 ∧ first.url = seedUrl
  below : ∀ before report after, reports = before ++ report :: after → before ≠ [] →
    ∃ parent ∈ before, report.Below fetch fetched parent

theorem reports_split {ends : List TaskEnd} {before after : List TaskReport} {report : TaskReport}
    (split : ends.filterMap (·.report?) = before ++ report :: after) :
    ∃ early late, ends = early ++ .reported report :: late ∧
      early.filterMap (·.report?) = before := by
  obtain ⟨front, back, rfl, printed, left⟩ := List.filterMap_eq_append_iff.mp split
  obtain ⟨silent, taskEnd, late, rfl, quiet, telling, _⟩ := List.filterMap_eq_cons_iff.mp left
  obtain rfl : taskEnd = .reported report := by
    cases taskEnd <;> simp_all [TaskEnd.report?]
  refine ⟨front ++ silent, late, by rw [List.append_assoc], ?_⟩
  rw [List.filterMap_append, printed, List.filterMap_eq_nil_iff.mpr quiet, List.append_nil]

/-- In a search whose tasks end as they should, a line is that of the root, with none before it, or
stands below one of those before it. -/
theorem Search.report_cases {ends : List TaskEnd} {seen offered : List String}
    (search : Search fetch seedUrl (ends.map (·.task)) seen)
    (sound : ∀ taskEnd ∈ ends, taskEnd.Sound fetch offered)
    {before after : List TaskReport} {report : TaskReport}
    (split : ends.filterMap (·.report?) = before ++ report :: after) :
    (before = [] ∧ report.task = Task.root seedUrl) ∨
      ∃ parent ∈ before, report.Below fetch (ends.map (·.task.url)) parent := by
  obtain ⟨early, late, rfl, rfl⟩ := reports_split split
  have tasks : (early ++ .reported report :: late).map (·.task) =
      early.map (·.task) ++ report.task :: late.map (·.task) := List.map_append
  obtain ⟨none, root⟩ | ⟨earlier, parent, later, page, known, found, loaded, child, first⟩ :=
    search.discovered _ _ _ tasks
  · rw [List.map_eq_nil_iff.mp none]
    exact .inl ⟨rfl, root⟩
  · obtain ⟨front, back, rfl, rfl, rest⟩ := List.map_eq_append_iff.mp known
    obtain ⟨parentEnd, back, rfl, rfl, rfl⟩ := List.map_eq_cons_iff.mp rest
    -- the parent's URL gives a page, so its task has ended with a line
    obtain ⟨⟨line, rfl⟩, _⟩ := (sound parentEnd (by simp)).of_page found
    refine .inr ⟨line, List.mem_filterMap.mpr ⟨.reported line, by simp, rfl⟩, ?_, ?_, ?_, ?_⟩
    · exact congrArg (·.parentId) child
    · exact congrArg (·.depth) child
    · exact ⟨page, found, loaded, congrArg (·.id) child⟩
    · refine ⟨front.map (·.task.url), (back ++ .reported report :: late).map (·.task.url), ?_, ?_⟩
      · rw [List.append_assoc, List.map_append]
        rfl
      · intro url member
        obtain ⟨other, present, rfl⟩ := List.mem_map.mp member
        exact first other.task (List.mem_map_of_mem present)

theorem drain_lineage {urls : List String} (covers : Covers fetch seedUrl urls) {limit : Nat}
    (room : urls.length ≤ limit) (rank : String) :
    Lineage fetch seedUrl (((Round.start rank seedUrl).drain fetch limit).2.map (·.task.url))
      (((Round.start rank seedUrl).drain fetch limit).2.filterMap (·.report?)) := by
  obtain ⟨last, _, ends, _, _, finished⟩ := drain_finished covers room rank
  obtain ⟨seen, search, _⟩ := drained_visited covers room rank
  rw [← ends] at search ⊢
  have sound := finished.rooted.ends
  refine ⟨finished.reports_ids_nodup, finished.exact.reportedOnce, ?_, ?_⟩
  · intro first rest split
    rw [← List.nil_append (first :: rest)] at split
    obtain ⟨_, root⟩ | ⟨parent, none, _⟩ := search.report_cases sound split
    · exact ⟨congrArg (·.id) root, congrArg (·.parentId) root, congrArg (·.depth) root,
        congrArg (·.url) root⟩
    · exact (List.not_mem_nil none).elim
  · intro before report after split others
    obtain ⟨none, _⟩ | below := search.report_cases sound split
    · exact (others none).elim
    · exact below

/-- The lines that a round prints when it is worked through in order form a tree. So do those that any
number of workers print of whom no two are busy at the same time. -/
theorem reports_lineage (site : Site) (workers : Nat) (seed : Seed) :
    EndsInOrder site.fetch seed (poolSize workers)
      ((runRound site.fetch site.size seed).filterMap (·.end?)) ∧
    ((runRound site.fetch site.size seed).filterMap (·.event?)).filterMap (·.report?) =
      ((runRound site.fetch site.size seed).filterMap (·.end?)).filterMap (·.report?) ∧
    Lineage site.fetch seed.url.text ((runRound site.fetch site.size seed).filterMap (·.fetched?))
      (((runRound site.fetch site.size seed).filterMap (·.event?)).filterMap (·.report?)) := by
  refine ⟨runRound_endsInOrder site workers seed, ?_, ?_⟩
  · rw [runRound_reports, runRound_ends]
  · rw [runRound_reports, runRound_fetched]
    exact drain_lineage (Site.covers site _) (Nat.le_of_eq (site.urls_length _)) seed.rank

end PageLoad.Crawl

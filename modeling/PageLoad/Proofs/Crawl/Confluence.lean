import PageLoad.Proofs.Crawl.Reports

/-!
Whatever the number of its workers and the order in which they act, a round comes to the same: it has
fetched the same URLs, reported the same pages and counted the same totals. Only the tree of its
tasks may differ, since a URL belongs to whoever offers it first; but it is a tree all the same.
-/

namespace PageLoad.Crawl
open Number Work Fetch

variable {fetch : String → Outcome} {rank seedUrl : String} {progress other : Progress}

/-- What a line says of a page, whichever task it was fetched for. -/
def TaskReport.content (report : TaskReport) : String × String × Nat :=
  (report.url, report.contentType, report.bytes)

def Progress.contents (progress : Progress) : List (String × String × Nat) :=
  (progress.ends.filterMap (·.report?)).map (·.content)

/-- Tasks that hang together below the root, each with an id of its own. -/
structure IsTree (seedUrl : String) (tasks : List Task) : Prop where
  root : Task.root seedUrl ∈ tasks
  distinct : (tasks.map (·.id)).Nodup
  parent : ∀ task ∈ tasks, task = Task.root seedUrl ∨
    ∃ parent ∈ tasks, task.parentId = parent.id ∧ task.depth = parent.depth + 1

namespace Progress

theorem Rooted.isTree {jobs : Multiset Job} (rooted : Rooted fetch seedUrl progress jobs) :
    IsTree seedUrl progress.accepted := by
  refine ⟨rooted.root, ?_, ?_⟩
  · have once : progress.accepted.Nodup := rooted.accounted.distinct.of_map _
    apply once.map_on
    intro task member other present same
    exact rooted.eq_of_id member present same
  · intro task member
    obtain root | ⟨parent, known, _, _, _, _, child⟩ := rooted.descends task member
    · exact .inl root
    · refine .inr ⟨parent, known, ?_, ?_⟩
      · rw [child]
        rfl
      · rw [child]
        rfl

namespace Finished

theorem contents_nodup (finished : Finished fetch seedUrl progress) : progress.contents.Nodup := by
  have urls : (progress.contents.map (·.1)).Nodup := by
    rw [contents, List.map_map]
    exact finished.exact.reportedOnce
  exact urls.of_map _

theorem mem_contents (finished : Finished fetch seedUrl progress) {url contentType : String} {bytes : Nat} :
    (url, contentType, bytes) ∈ progress.contents ↔
      Reaches fetch seedUrl url ∧ ∃ page, fetch url = .page page ∧
        contentType = page.contentType ∧ bytes = page.body.length := by
  have tasks : Reaches fetch seedUrl url ↔ ∃ task ∈ progress.accepted, task.url = url := by
    rw [← finished.exact.reached, ← finished.fetched_perm.mem_iff, List.mem_map]
  rw [contents, List.mem_map, tasks]
  constructor
  · rintro ⟨report, reported, same⟩
    obtain ⟨task, member, page, found, rfl⟩ := finished.mem_reports.mp reported
    cases same
    exact ⟨⟨task, member, rfl⟩, page, found, rfl, rfl⟩
  · rintro ⟨⟨task, member, rfl⟩, page, found, rfl, rfl⟩
    exact ⟨_, finished.mem_reports.mpr ⟨task, member, page, found, rfl⟩, rfl⟩

theorem fetched_perm_fetched (finished : Finished fetch seedUrl progress)
    (ended : Finished fetch seedUrl other) : progress.fetched.Perm other.fetched := by
  rw [List.perm_ext_iff_of_nodup finished.exact.once ended.exact.once]
  intro url
  rw [finished.exact.reached, ended.exact.reached]

theorem contents_perm (finished : Finished fetch seedUrl progress)
    (ended : Finished fetch seedUrl other) : progress.contents.Perm other.contents := by
  rw [List.perm_ext_iff_of_nodup finished.contents_nodup ended.contents_nodup]
  rintro ⟨url, contentType, bytes⟩
  rw [finished.mem_contents, ended.mem_contents]

end Finished

theorem Counted.contents (counted : Counted rank seedUrl progress 0) :
    progress.round.tasks = progress.contents.length ∧
      progress.round.bytes = (progress.contents.map (·.2.2)).sum % UInt64.size := by
  obtain ⟨tasks, bytes⟩ := counted.reports
  refine ⟨?_, ?_⟩
  · rw [tasks, Progress.contents, List.length_map]
  · rw [bytes, Progress.contents, List.map_map]
    rfl

theorem Counted.summary_eq (counted : Counted rank seedUrl progress 0)
    (recounted : Counted rank seedUrl other 0) (same : progress.contents.Perm other.contents)
    (elapsed : Double) : progress.round.summary elapsed = other.round.summary elapsed := by
  have tasks : progress.round.tasks = other.round.tasks := by
    rw [counted.contents.1, recounted.contents.1, same.length_eq]
  have bytes : progress.round.bytes = other.round.bytes := by
    rw [counted.contents.2, recounted.contents.2, (same.map _).sum_eq]
  simp only [Round.summary, counted.rank, counted.seedUrl, recounted.rank,
    recounted.seedUrl, tasks, bytes]

end Progress

/-! A page that loads two others, both of which load a fourth. -/

def forkUrl : Url where
  scheme := "a"
  authority := some ⟨"", "", .name "b", none⟩
  path := .segments []
  query := none
  fragment := none

def forkSite : Site :=
  [("a://b", .page ⟨forkUrl, "text/html", "<img src=c><img src=d>".toUTF8.toList, 0⟩),
    ("a://b/c", .page ⟨forkUrl, "text/html", "<img src=e>".toUTF8.toList, 0⟩),
    ("a://b/d", .page ⟨forkUrl, "text/html", "<img src=e>".toUTF8.toList, 0⟩),
    ("a://b/e", .page ⟨forkUrl, "image/png", [1, 2, 3], 0⟩)]

/-- Two runs of a round with nothing left outstanding have fetched the same URLs, each of them once,
have reported the same of the same pages and end with the same summary, apart from the time. In both
of them the tasks are a tree. -/
theorem runs_agree (fetch : String → Outcome) (rank seedUrl : String) {workers helpers : Nat}
    {first second : Crew Progress Job}
    (reached : Crew.Reaches (trade fetch) (crew rank seedUrl workers) first)
    (done : first.state.round.queue.outstanding = 0)
    (arrived : Crew.Reaches (trade fetch) (crew rank seedUrl helpers) second)
    (settled : second.state.round.queue.outstanding = 0) :
    first.state.fetched.Nodup ∧ second.state.fetched.Nodup ∧
    first.state.fetched.Perm second.state.fetched ∧
    first.state.contents.Perm second.state.contents ∧
    (∀ elapsed, first.state.round.summary elapsed = second.state.round.summary elapsed) ∧
    IsTree seedUrl first.state.accepted ∧ IsTree seedUrl second.state.accepted := by
  have finished := reached_finished reached done
  have ended := reached_finished arrived settled
  have same := finished.contents_perm ended
  have counted := reached_counted reached
  rw [(reached.sound (crew_sound _ _ _ _)).idle done] at counted
  have recounted := reached_counted arrived
  rw [(arrived.sound (crew_sound _ _ _ _)).idle settled] at recounted
  refine ⟨finished.exact.once, ended.exact.once, finished.fetched_perm_fetched ended, same, ?_, ?_, ?_⟩
  · exact fun elapsed => counted.summary_eq recounted same elapsed
  · exact finished.rooted.isTree
  · exact ended.rooted.isTree

/-- A single worker finds the fourth page on the second, but if another worker is faster with the third
page, it is found there. -/
theorem runs_agree_fork : ∃ first second,
    Crew.Reaches (trade forkSite.fetch) (crew "1" "a://b" 1) first ∧
    first.state.round.queue.outstanding = 0 ∧
    Crew.Reaches (trade forkSite.fetch) (crew "1" "a://b" 2) second ∧
    second.state.round.queue.outstanding = 0 ∧
    first.state.accepted.map (·.id) = ["0", "0.0", "0.1", "0.0.0"] ∧
    second.state.accepted.map (·.id) = ["0", "0.0", "0.1", "0.1.0"] ∧
    first.state.fetched.Perm second.state.fetched ∧
    first.state.contents.Perm second.state.contents ∧
    ∀ elapsed, first.state.round.summary elapsed = second.state.round.summary elapsed := by
  have alone : ((crew "1" "a://b" 1).run? (trade forkSite.fetch) (List.replicate 24 (.worker 0))).map
      (fun last => (last.state.round.queue.outstanding, last.state.accepted.map (·.id))) =
      some (0, ["0", "0.0", "0.1", "0.0.0"]) := by decide +kernel
  have racing : ((crew "1" "a://b" 2).run? (trade forkSite.fetch) (List.replicate 8 (.worker 0) ++
      List.replicate 6 (.worker 1) ++ List.replicate 10 (.worker 0))).map
      (fun last => (last.state.round.queue.outstanding, last.state.accepted.map (·.id))) =
      some (0, ["0", "0.0", "0.1", "0.1.0"]) := by decide +kernel
  obtain ⟨first, ran, seen⟩ := Option.map_eq_some_iff.mp alone
  obtain ⟨second, raced, found⟩ := Option.map_eq_some_iff.mp racing
  obtain ⟨done, ids⟩ := Prod.mk.inj seen
  obtain ⟨settled, others⟩ := Prod.mk.inj found
  have ⟨_, _, fetched, contents, summary, _⟩ :=
    runs_agree forkSite.fetch "1" "a://b" ⟨_, ran⟩ done ⟨_, raced⟩ settled
  exact ⟨first, second, ⟨_, ran⟩, done, ⟨_, raced⟩, settled, ids, others, fetched, contents, summary⟩

end PageLoad.Crawl

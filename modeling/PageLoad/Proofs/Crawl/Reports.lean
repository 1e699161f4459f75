import PageLoad.Proofs.Crawl.Exact
import PageLoad.Proofs.Crawl.Path
import PageLoad.Proofs.Number.Digits
import Mathlib.Algebra.Order.BigOperators.Group.List
import Mathlib.Algebra.Order.Ring.Nat

/-!
What a round has reported when it is finished: a tree. Ids differ, and no task is reported without
the task whose page names it.
-/

namespace PageLoad.Crawl
open Number Work Fetch

variable {fetch : String → Outcome} {seedUrl : String} {progress : Progress} {jobs : Multiset Job}

namespace Progress

/-- What holds of the root, and of a child whenever it holds of its parent, holds of all tasks. -/
theorem Rooted.induction (Holds : Task → Prop) (rooted : Rooted fetch seedUrl progress jobs)
    (root : Holds (Task.root seedUrl))
    (child : ∀ parent ∈ progress.accepted, ∀ page index url, fetch parent.url = .page page →
      page.links[index]? = some url → Holds parent → Holds (parent.child index url))
    {task : Task} (member : task ∈ progress.accepted) : Holds task := by
  induction depth : task.depth generalizing task with
  | zero =>
    obtain same | ⟨parent, _, _, _, _, _, same⟩ := rooted.descends task member
    · exact same ▸ root
    · rw [same] at depth
      cases depth
  | succ deeper ih =>
    obtain same | ⟨parent, known, page, index, found, placed, same⟩ := rooted.descends task member
    · exact same ▸ root
    · rw [same] at depth ⊢
      exact child parent known page index task.url found placed (ih known (Nat.succ.inj depth))

/-- Every depth down to that of a task is the depth of one above it. -/
theorem Rooted.exists_depth (rooted : Rooted fetch seedUrl progress jobs) {task : Task}
    (member : task ∈ progress.accepted) {depth : Nat} (most : depth ≤ task.depth) :
    ∃ other ∈ progress.accepted, other.depth = depth := by
  induction deep : task.depth generalizing task with
  | zero => exact ⟨task, member, by omega⟩
  | succ above ih =>
    by_cases own : depth = task.depth
    · exact ⟨task, member, own.symm⟩
    · obtain same | ⟨parent, known, _, _, _, _, same⟩ := rooted.descends task member
      · rw [same] at deep
        cases deep
      · have higher : parent.depth = above := by
          rw [same] at deep
          exact Nat.succ.inj deep
        exact ih known (by omega) higher

theorem Rooted.depth_lt (rooted : Rooted fetch seedUrl progress jobs) {task : Task}
    (member : task ∈ progress.accepted) : task.depth < progress.accepted.length := by
  have depths : List.range (task.depth + 1) ⊆ progress.accepted.map (·.depth) := by
    intro depth inside
    have most := Nat.lt_succ_iff.mp (List.mem_range.mp inside)
    obtain ⟨other, known, same⟩ := rooted.exists_depth member most
    exact List.mem_map.mpr ⟨other, known, same⟩
  have few := List.nodup_range.length_le_of_subset depths
  rwa [List.length_range, List.length_map] at few

theorem Rooted.id_dotted (rooted : Rooted fetch seedUrl progress jobs) {task : Task}
    (member : task ∈ progress.accepted) :
    (task.id.toList ≠ [] ∧ ∀ c ∈ task.id.toList, IsDotted c) ∧
      ∀ c ∈ task.parentId.toList, IsDotted c := by
  have zero : ∀ c ∈ Task.rootId.toList, IsDotted c := by
    intro c member
    rw [List.mem_singleton.mp member]
    exact .inl rfl
  refine rooted.induction (fun task => (task.id.toList ≠ [] ∧ ∀ c ∈ task.id.toList, IsDotted c) ∧
    ∀ c ∈ task.parentId.toList, IsDotted c) ⟨⟨by simp [Task.root, Task.rootId], zero⟩, zero⟩ ?_ member
  rintro parent - page index url - - ⟨⟨_, dotted⟩, _⟩
  refine ⟨⟨by simp [Task.child_id, childId_toList], ?_⟩, dotted⟩
  intro c member
  rw [Task.child_id, childId_toList, List.mem_append, List.mem_cons] at member
  rcases member with front | rfl | digit
  · exact dotted c front
  · exact .inr rfl
  · exact isDotted_toString _ c digit

theorem Rooted.eq_of_url (rooted : Rooted fetch seedUrl progress jobs) {task other : Task}
    (member : task ∈ progress.accepted) (present : other ∈ progress.accepted)
    (same : task.url = other.url) : task = other :=
  List.inj_on_of_nodup_map rooted.accounted.distinct member present same

theorem Rooted.eq_of_id (rooted : Rooted fetch seedUrl progress jobs) {task other : Task}
    (member : task ∈ progress.accepted) (present : other ∈ progress.accepted)
    (same : task.id = other.id) : task = other := by
  have all : ∀ other ∈ progress.accepted, task.id = other.id → task.url = other.url := by
    refine rooted.induction (fun task =>
      ∀ other ∈ progress.accepted, task.id = other.id → task.url = other.url) ?_ ?_ member
    · intro other present same
      obtain rfl | ⟨parent, _, _, index, _, _, child⟩ := rooted.descends other present
      · rfl
      · rw [child] at same
        exact (childId_ne_rootId _ _ same.symm).elim
    · intro parent known page index url found placed ih other present same
      obtain rfl | ⟨parent', known', page', index', found', placed', child⟩ :=
        rooted.descends other present
      · exact (childId_ne_rootId _ _ same).elim
      · rw [child] at same
        obtain ⟨parents, rfl⟩ := childId_injective same
        rw [← ih parent' known' parents, found] at found'
        cases found'
        exact Option.some.inj (placed.symm.trans placed')
  exact rooted.eq_of_url member present (all other present same)

namespace Finished

theorem mem_reports (finished : Finished fetch seedUrl progress) {report : TaskReport} :
    report ∈ progress.ends.filterMap (·.report?) ↔
      ∃ task ∈ progress.accepted, ∃ page, fetch task.url = .page page ∧
        report = TaskReport.ofPage task page := by
  rw [List.mem_filterMap]
  constructor
  · rintro ⟨taskEnd, member, known⟩
    obtain rfl : taskEnd = .reported report := by
      cases taskEnd <;> simp_all [TaskEnd.report?]
    obtain ⟨page, found, same, _⟩ := finished.rooted.ends _ member
    have task := finished.ends_perm.mem_iff.mpr (List.mem_map_of_mem (f := (·.task)) member)
    exact ⟨report.task, task, page, found, same⟩
  · rintro ⟨task, member, page, found, rfl⟩
    obtain ⟨taskEnd, present, rfl⟩ := List.mem_map.mp (finished.ends_perm.mem_iff.mp member)
    have sound := finished.rooted.ends taskEnd present
    obtain ⟨⟨report, rfl⟩, _⟩ := sound.of_page found
    obtain ⟨other, same, equal, _⟩ := sound
    cases found.symm.trans same
    exact ⟨.reported report, present, congrArg some equal⟩

theorem reports_ids_nodup (finished : Finished fetch seedUrl progress) :
    ((progress.ends.filterMap (·.report?)).map (·.id)).Nodup := by
  have once : (progress.ends.filterMap (·.report?)).Nodup := finished.exact.reportedOnce.of_map _
  refine once.map_on ?_
  intro report reported other reported' same
  obtain ⟨task, member, page, found, rfl⟩ := finished.mem_reports.mp reported
  obtain ⟨task', member', page', found', rfl⟩ := finished.mem_reports.mp reported'
  obtain rfl := finished.rooted.eq_of_id member member' same
  cases found.symm.trans found'
  rfl

/-- A line is that of the root, which is its own parent, or there is one for the page that names its
task, with a shorter id. -/
theorem reported_below (finished : Finished fetch seedUrl progress) {report : TaskReport}
    (reported : report ∈ progress.ends.filterMap (·.report?)) :
    (report.id = Task.rootId ∧ report.parentId = Task.rootId) ∨
      ∃ parent ∈ progress.ends.filterMap (·.report?),
        parent.id = report.parentId ∧ parent.id.length < report.id.length := by
  obtain ⟨task, member, page, found, rfl⟩ := finished.mem_reports.mp reported
  obtain rfl | ⟨parent, known, whole, index, holds, _, child⟩ :=
    finished.rooted.descends task member
  · exact .inl ⟨rfl, rfl⟩
  · rw [child]
    refine .inr ⟨_, finished.mem_reports.mpr ⟨parent, known, whole, holds, rfl⟩, rfl, ?_⟩
    exact childId_longer parent.id index

theorem root_reported (finished : Finished fetch seedUrl progress) {report : TaskReport}
    (reported : report ∈ progress.ends.filterMap (·.report?)) :
    ∃ root ∈ progress.ends.filterMap (·.report?),
      root.id = Task.rootId ∧ root.parentId = Task.rootId := by
  obtain ⟨task, member, page, found, rfl⟩ := finished.mem_reports.mp reported
  have rootPage : ∃ page, fetch seedUrl = .page page := by
    refine finished.rooted.induction
      (fun task => ∀ page, fetch task.url = .page page → ∃ page, fetch seedUrl = .page page)
      ?_ ?_ member page found
    · intro page found
      exact ⟨page, found⟩
    · intro parent _ page _ _ found _ ih _ _
      exact ih page found
  obtain ⟨page, found⟩ := rootPage
  exact ⟨_, finished.mem_reports.mpr ⟨_, finished.rooted.root, page, found, rfl⟩, rfl, rfl⟩

end Finished

end Progress

/-- Among fewer than 2³² URLs a round comes to no task whose children would lie too deep. -/
theorem reached_child?_eq {urls : List String} (covers : Covers fetch seedUrl urls)
    (few : urls.length < UInt32.size) {rank : String} {workers : Nat} {now : Crew Progress Job}
    (reached : Crew.Reaches (trade fetch) (crew rank seedUrl workers) now) {task : Task}
    (member : task ∈ now.state.accepted) (index : Nat) (url : String) :
    task.child? index url = some (task.child index url) := by
  have rooted := reached_rooted reached
  have shallow := rooted.depth_lt member
  have inside := rooted.accepted_length_le covers
  have room : task.depth < Task.maxDepth := by
    rw [Task.maxDepth]
    omega
  exact Task.child?_of_lt room index url

/-! What the lines of a round add up to. -/

def Job.report? : Job → Option TaskReport
  | .conclude taskEnd => taskEnd.report?
  | .fetch _ | .offer _ _ _ _ => none

namespace Progress

/-- The lines that have been printed or are about to be. -/
def lines (progress : Progress) (jobs : Multiset Job) : Multiset TaskReport :=
  ↑(progress.ends.filterMap (·.report?)) + jobs.filterMap (·.report?)

theorem lines_silent (progress : Progress) {job : Job} (silent : job.report? = none)
    (jobs : Multiset Job) : progress.lines (job ::ₘ jobs) = progress.lines jobs := by
  rw [lines, Multiset.filterMap_cons_none _ _ silent, lines]

theorem lines_telling (progress : Progress) {job : Job} {report : TaskReport}
    (telling : job.report? = some report) (jobs : Multiset Job) :
    progress.lines (job ::ₘ jobs) = report ::ₘ progress.lines jobs := by
  rw [lines, Multiset.filterMap_cons_some _ _ _ telling, Multiset.add_cons, lines]

theorem lines_conclude (progress : Progress) (taskEnd : TaskEnd) (jobs : Multiset Job) :
    (progress.conclude taskEnd).lines jobs = progress.lines (.conclude taskEnd ::ₘ jobs) := by
  cases taskEnd with
  | reported report =>
    rw [progress.lines_telling (rfl : (Job.conclude (.reported report)).report? = some report)]
    rw [lines, lines, conclude, List.filterMap_append, ← Multiset.coe_add]
    rw [← Multiset.singleton_add, add_right_comm, add_comm]
    rfl
  | dropped task failure =>
    rw [progress.lines_silent (rfl : (Job.conclude (.dropped task failure)).report? = none)]
    rw [lines, lines, conclude, List.filterMap_append]
    simp [TaskEnd.report?]
  | crashed task crash =>
    rw [progress.lines_silent (rfl : (Job.conclude (.crashed task crash)).report? = none)]
    rw [lines, lines, conclude, List.filterMap_append]
    simp [TaskEnd.report?]

/-- The totals are those of the lines, as far as 64 bits hold them. -/
structure Counted (rank seedUrl : String) (progress : Progress) (jobs : Multiset Job) : Prop where
  rank : progress.round.rank = rank
  seedUrl : progress.round.seedUrl = seedUrl
  tasks : progress.round.tasks = (progress.lines jobs).card
  bytes : progress.round.bytes = ((progress.lines jobs).map (·.bytes)).sum % UInt64.size

theorem counted_start (rank seedUrl : String) : Counted rank seedUrl (.start rank seedUrl) 0 :=
  ⟨rfl, rfl, rfl, rfl⟩

theorem Counted.same {rank seedUrl : String} {progress next : Progress} {jobs left : Multiset Job}
    (counted : Counted rank seedUrl progress jobs) (lines : next.lines left = progress.lines jobs)
    (rank' : next.round.rank = progress.round.rank)
    (seedUrl' : next.round.seedUrl = progress.round.seedUrl)
    (tasks : next.round.tasks = progress.round.tasks)
    (bytes : next.round.bytes = progress.round.bytes) : Counted rank seedUrl next left :=
  ⟨rank'.trans counted.rank, seedUrl'.trans counted.seedUrl, by rw [tasks, lines, counted.tasks],
    by rw [bytes, lines, counted.bytes]⟩

theorem Counted.record {rank seedUrl : String} {progress : Progress} {jobs : Multiset Job}
    (counted : Counted rank seedUrl progress jobs) (task : Task) (page : Page) :
    Counted rank seedUrl (progress.record page)
      (.conclude (.reported (TaskReport.ofPage task page)) ::ₘ jobs) := by
  have lines : (progress.record page).lines (.conclude (.reported (TaskReport.ofPage task page)) ::ₘ jobs) =
      TaskReport.ofPage task page ::ₘ progress.lines jobs := lines_telling _ rfl jobs
  refine ⟨counted.rank, counted.seedUrl, ?_, ?_⟩
  · rw [lines, Multiset.card_cons, ← counted.tasks]
    rfl
  · rw [lines, Multiset.map_cons, Multiset.sum_cons, Nat.add_comm, ← Nat.mod_add_mod, ← counted.bytes]
    rfl

theorem offer_totals (progress : Progress) (task : Task) :
    (progress.offer task).ends = progress.ends ∧
      (progress.offer task).round.rank = progress.round.rank ∧
      (progress.offer task).round.seedUrl = progress.round.seedUrl ∧
      (progress.offer task).round.tasks = progress.round.tasks ∧
      (progress.offer task).round.bytes = progress.round.bytes := by
  obtain ⟨_, offered⟩ | ⟨_, offered⟩ := progress.offer_cases task <;> simp [offered]

theorem counted_keeps (fetch : String → Outcome) (rank seedUrl : String) :
    (trade fetch).Keeps (Counted rank seedUrl) where
  keep counted _ := counted.same rfl rfl rfl rfl rfl
  take counted _ := counted.same (lines_silent _ rfl _) rfl rfl rfl rfl
  act {progress job jobs} counted := by
    cases job with
    | fetch task =>
      have silent : (Job.ofOutcome task (fetch task.url)).report? = none := by
        cases fetch task.url <;> rfl
      exact counted.same ((lines_silent _ silent _).trans (lines_silent _ rfl _).symm) rfl rfl rfl rfl
    | offer task page index rest =>
      cases rest with
      | nil =>
        have before : Counted rank seedUrl progress jobs :=
          counted.same (lines_silent _ rfl _).symm rfl rfl rfl rfl
        exact before.record task page
      | cons url rest =>
        have ⟨ends, rank', seedUrl', tasks, bytes⟩ := progress.offer_totals (task.child index url)
        have lines : (progress.offer (task.child index url)).lines jobs = progress.lines jobs := by
          rw [Progress.lines, ends, Progress.lines]
        have before : Counted rank seedUrl progress jobs :=
          counted.same (lines_silent _ rfl _).symm rfl rfl rfl rfl
        exact before.same ((lines_silent _ rfl _).trans lines) rank' seedUrl' tasks bytes
    | conclude taskEnd => exact counted.same (lines_conclude _ _ _) rfl rfl rfl rfl

theorem Counted.reports {rank seedUrl : String} {progress : Progress}
    (counted : Counted rank seedUrl progress 0) :
    progress.round.tasks = (progress.ends.filterMap (·.report?)).length ∧
      progress.round.bytes =
        ((progress.ends.filterMap (·.report?)).map (·.bytes)).sum % UInt64.size := by
  have lines : progress.lines 0 = ↑(progress.ends.filterMap (·.report?)) := by
    rw [Progress.lines, Multiset.filterMap_zero, add_zero]
  have ⟨_, _, tasks, bytes⟩ := counted
  rw [lines] at tasks bytes
  exact ⟨tasks, bytes⟩

end Progress

theorem reached_counted {rank : String} {workers : Nat} {last : Crew Progress Job}
    (reached : Crew.Reaches (trade fetch) (crew rank seedUrl workers) last) :
    Progress.Counted rank seedUrl last.state last.jobs := by
  obtain ⟨_, ran⟩ := reached
  refine Crew.run_keeps (Progress.counted_keeps fetch rank seedUrl) ?_ ran
  rw [crew, Crew.start_jobs]
  exact Progress.counted_start rank seedUrl

theorem Crawled.IsBy.finished {round : Crawled} {workers : Nat} (crawled : round.IsBy workers) :
    Progress.Finished round.fetch round.seed.url.text round.progress ∧
      Progress.Counted round.seed.rank round.seed.url.text round.progress 0 := by
  obtain ⟨schedule, last, ran, released, same⟩ := crawled
  have reached : Crew.Reaches (trade round.fetch)
    (crew round.seed.rank round.seed.url.text workers) last := ⟨schedule, ran⟩
  have sound := reached.sound (crew_sound _ _ _ _)
  have done := sound.released released
  have counted := Crew.run_keeps (Progress.counted_keeps round.fetch _ _)
    (by rw [crew, Crew.start_jobs]; exact Progress.counted_start _ _) ran
  rw [sound.idle done] at counted
  exact same ▸ ⟨reached_finished reached done, counted⟩

def framed (seed : Seed) (elapsed : Double) (reports : List TaskReport) : List Event :=
  .roundStart seed.rank seed.url.text :: reports.map .task ++
    [.roundEnd ⟨seed.rank, seed.url.text, elapsed, reports.length,
      (reports.map (·.bytes)).sum % UInt64.size⟩]

theorem Crawled.IsBy.framed {round : Crawled} {workers : Nat} (crawled : round.IsBy workers) :
    round.events = framed round.seed round.elapsed round.reports := by
  have ⟨_, counted⟩ := crawled.finished
  have ⟨rank, seedUrl, _, _⟩ := counted
  have ⟨tasks, bytes⟩ := counted.reports
  rw [events, summary, Round.summary, rank, seedUrl, tasks, bytes]
  rfl

namespace Crawled

theorem reports_events (rounds : List Crawled) :
    (rounds.flatMap (·.events)).filterMap (·.report?) = rounds.flatMap (·.reports) := by
  have reports (round : Crawled) : round.events.filterMap (·.report?) = round.reports := by
    rw [events, List.cons_append, List.filterMap_cons_none rfl, List.filterMap_append, reports_task]
    exact List.append_nil _
  simp only [List.filterMap_flatMap, reports]

theorem bytes_le {rounds : List Crawled} {round : Crawled} (member : round ∈ rounds) :
    (round.reports.map (·.bytes)).sum ≤ ((rounds.flatMap (·.reports)).map (·.bytes)).sum := by
  have part : round.reports.Sublist (rounds.flatMap (·.reports)) :=
    List.sublist_flatten_of_mem (List.mem_map_of_mem member)
  exact (part.map _).sum_le_sum fun _ _ => Nat.zero_le _

end Crawled

end PageLoad.Crawl

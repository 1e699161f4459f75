import PageLoad.Crawl.Workers
import PageLoad.Proofs.Work.Crew
import Mathlib.Algebra.Order.Group.Multiset
import Mathlib.Data.Multiset.Filter
import Mathlib.Tactic.Abel

/-!
What holds in a round while workers crawl it together: where the tasks are that have been
accepted, how they hang together, and what the totals count.
-/

namespace PageLoad.Crawl
open Work Fetch

variable {fetch : String → Outcome}

namespace Progress

theorem offer_cases (progress : Progress) (task : Task) :
    (task.url ∈ progress.round.seen ∧ progress.offer task = progress) ∨
    (task.url ∉ progress.round.seen ∧ progress.offer task =
      { progress with
        round := { progress.round with
          seen := task.url :: progress.round.seen, queue := progress.round.queue.push task }
        accepted := progress.accepted ++ [task] }) := by
  obtain ⟨known, offered⟩ | ⟨new, offered⟩ := progress.round.offer_cases task
  · exact .inl ⟨known, by simp [offer, offered]⟩
  · exact .inr ⟨new, by simp [offer, offered]⟩

/-- Every task that has been accepted is queued, under way or at its end. -/
structure Accounted (progress : Progress) (jobs : Multiset Job) : Prop where
  seen : ∀ url, url ∈ progress.round.seen ↔ url ∈ progress.accepted.map (·.url)
  distinct : (progress.accepted.map (·.url)).Nodup
  tasks : (progress.accepted : Multiset Task) =
    ↑progress.round.queue.items + jobs.map (·.task) + ↑(progress.ends.map (·.task))
  fetched : (progress.accepted.map (·.url) : Multiset String) =
    ↑(progress.round.queue.items.map (·.url)) + jobs.filterMap (·.awaited?) + ↑progress.fetched

theorem accounted_start (rank seedUrl : String) : Accounted (.start rank seedUrl) 0 := by
  constructor <;> simp [start, Round.start, Round.offer, Task.root, Queue.empty]

namespace Accounted

variable {progress : Progress} {jobs : Multiset Job}

theorem keep (accounted : Accounted progress jobs) {queue : Queue Task}
    (same : queue.items = progress.round.queue.items) :
    Accounted { progress with round := { progress.round with queue } } jobs :=
  ⟨accounted.seen, accounted.distinct, same ▸ accounted.tasks, same ▸ accounted.fetched⟩

theorem take (accounted : Accounted progress jobs) {task : Task} {queue : Queue Task}
    (first : progress.round.queue.items = task :: queue.items) :
    Accounted { progress with round := { progress.round with queue } } (.fetch task ::ₘ jobs) := by
  refine ⟨accounted.seen, accounted.distinct, ?_, ?_⟩
  · rw [accounted.tasks, first, ← Multiset.cons_coe, Multiset.map_cons]
    simp only [← Multiset.singleton_add, Job.task]
    abel
  · rw [accounted.fetched, first, List.map_cons, ← Multiset.cons_coe,
      Multiset.filterMap_cons_some (·.awaited?) (.fetch task) jobs rfl]
    simp only [← Multiset.singleton_add]
    abel

theorem goOn {job next : Job} (accounted : Accounted progress (job ::ₘ jobs))
    (task : next.task = job.task) (awaited : next.awaited? = job.awaited?) :
    Accounted progress (next ::ₘ jobs) := by
  refine ⟨accounted.seen, accounted.distinct, ?_, ?_⟩
  · rw [accounted.tasks, Multiset.map_cons, Multiset.map_cons, task]
  · rw [accounted.fetched]
    cases known : job.awaited? with
    | none =>
      rw [Multiset.filterMap_cons_none _ _ known,
        Multiset.filterMap_cons_none _ _ (awaited.trans known)]
    | some url =>
      rw [Multiset.filterMap_cons_some _ _ _ known,
        Multiset.filterMap_cons_some _ _ _ (awaited.trans known)]

theorem fetchOf {task : Task} {next : Job} (accounted : Accounted progress (.fetch task ::ₘ jobs))
    (same : next.task = task) (awaited : next.awaited? = none) :
    Accounted (progress.fetchOf task.url) (next ::ₘ jobs) := by
  refine ⟨accounted.seen, accounted.distinct, ?_, ?_⟩
  · rw [Progress.fetchOf, accounted.tasks, Multiset.map_cons, Multiset.map_cons, same]
    rfl
  · rw [Progress.fetchOf, accounted.fetched, ← Multiset.coe_add,
      Multiset.filterMap_cons_some (·.awaited?) (.fetch task) jobs rfl,
      Multiset.filterMap_cons_none _ _ awaited]
    simp only [← Multiset.singleton_add, Multiset.coe_singleton]
    abel

theorem offer (accounted : Accounted progress jobs) (task : Task) :
    Accounted (progress.offer task) jobs := by
  obtain ⟨_, same⟩ | ⟨new, offered⟩ := progress.offer_cases task
  · rw [same]
    exact accounted
  · rw [offered]
    have unseen : task.url ∉ progress.accepted.map (·.url) := fun old =>
      new ((accounted.seen task.url).mpr old)
    refine ⟨?_, ?_, ?_, ?_⟩
    · intro url
      simp [accounted.seen url, or_comm]
    · rw [List.map_append, List.nodup_append]
      exact ⟨accounted.distinct, List.nodup_singleton _, by simpa using unseen⟩
    · simp only [Queue.push_items, ← Multiset.coe_add, accounted.tasks]
      abel
    · simp only [Queue.push_items, List.map_append, ← Multiset.coe_add, accounted.fetched]
      abel

theorem conclude {taskEnd : TaskEnd} (accounted : Accounted progress (.conclude taskEnd ::ₘ jobs)) :
    Accounted (progress.conclude taskEnd) jobs := by
  refine ⟨accounted.seen, accounted.distinct, ?_, ?_⟩
  · rw [Progress.conclude, accounted.tasks, Multiset.map_cons, List.map_append, ← Multiset.coe_add]
    simp only [← Multiset.singleton_add, Job.task, List.map_cons, List.map_nil,
      Multiset.coe_singleton]
    abel
  · rw [Progress.conclude, accounted.fetched, Multiset.filterMap_cons_none _ _ rfl]

end Accounted

theorem accounted_keeps (fetch : String → Outcome) : (trade fetch).Keeps Accounted where
  keep accounted same := accounted.keep same
  take accounted first := accounted.take first
  act {progress job jobs} accounted := by
    cases job with
    | fetch task =>
      apply accounted.fetchOf
      all_goals cases fetch task.url <;> rfl
    | offer task page index rest =>
      cases rest with
      | nil =>
        have recorded : Accounted (progress.record page) (.offer task page index [] ::ₘ jobs) :=
          ⟨accounted.seen, accounted.distinct, accounted.tasks, accounted.fetched⟩
        exact recorded.goOn rfl rfl
      | cons url rest => exact (accounted.offer _).goOn rfl rfl
    | conclude taskEnd => exact accounted.conclude

theorem Accounted.job_accepted {progress : Progress} {job : Job} {jobs : Multiset Job}
    (accounted : Accounted progress jobs) (member : job ∈ jobs) : job.task ∈ progress.accepted := by
  have counted : job.task ∈ (progress.accepted : Multiset Task) := by
    rw [accounted.tasks]
    simp only [Multiset.mem_add, Multiset.mem_map]
    exact .inl (.inr ⟨job, member, rfl⟩)
  exact Multiset.mem_coe.mp counted

end Progress

/-- A task is the root of its round, or stands for an asset of a page of a task. -/
def Task.Descends (fetch : String → Outcome) (seedUrl : String) (accepted : List Task)
    (task : Task) : Prop :=
  task = Task.root seedUrl ∨
    ∃ parent ∈ accepted, ∃ page index, fetch parent.url = .page page ∧
      page.links[index]? = some task.url ∧ task = parent.child index task.url

/-- A task has come to the end that its URL leads to. No page is reported before all of its assets
have been offered. -/
def TaskEnd.Sound (fetch : String → Outcome) (seen : List String) : TaskEnd → Prop
  | .reported report => ∃ page, fetch report.url = .page page ∧
      report = TaskReport.ofPage report.task page ∧ ∀ url ∈ page.links, url ∈ seen
  | .dropped task failure => fetch task.url = .failed failure
  | .crashed task crash => fetch task.url = .crashed crash

/-- An offer has come to a position of the page, and all assets before it have been offered. -/
def Job.Sound (fetch : String → Outcome) (seen : List String) : Job → Prop
  | .fetch _ => True
  | .offer task page index rest => fetch task.url = .page page ∧ rest = page.links.drop index ∧
      ∀ url ∈ page.links.take index, url ∈ seen
  | .conclude taskEnd => taskEnd.Sound fetch seen

theorem Task.Descends.mono {seedUrl : String} {accepted more : List Task} {task : Task}
    (descends : task.Descends fetch seedUrl accepted) (kept : accepted ⊆ more) :
    task.Descends fetch seedUrl more := by
  obtain root | ⟨parent, known, found⟩ := descends
  · exact .inl root
  · exact .inr ⟨parent, kept known, found⟩

theorem TaskEnd.Sound.mono {seen more : List String} {taskEnd : TaskEnd}
    (sound : taskEnd.Sound fetch seen) (kept : seen ⊆ more) : taskEnd.Sound fetch more := by
  cases taskEnd with
  | reported report =>
    obtain ⟨page, found, same, offered⟩ := sound
    exact ⟨page, found, same, fun url member => kept (offered url member)⟩
  | dropped task failure => exact sound
  | crashed task crash => exact sound

theorem Job.Sound.mono {seen more : List String} {job : Job} (sound : job.Sound fetch seen)
    (kept : seen ⊆ more) : job.Sound fetch more := by
  cases job with
  | fetch task => trivial
  | offer task page index rest =>
    obtain ⟨found, left, offered⟩ := sound
    exact ⟨found, left, fun url member => kept (offered url member)⟩
  | conclude taskEnd => exact TaskEnd.Sound.mono sound kept

theorem Job.sound_ofOutcome (seen : List String) (task : Task) :
    (Job.ofOutcome task (fetch task.url)).Sound fetch seen := by
  cases found : fetch task.url with
  | failed failure => exact found
  | crashed crash => exact found
  | page page => exact ⟨found, rfl, by simp⟩

namespace Progress

/-- The tasks form a tree, and what is done for each of them fits its URL. -/
structure Rooted (fetch : String → Outcome) (seedUrl : String) (progress : Progress)
    (jobs : Multiset Job) : Prop where
  accounted : Accounted progress jobs
  root : Task.root seedUrl ∈ progress.accepted
  descends : ∀ task ∈ progress.accepted, task.Descends fetch seedUrl progress.accepted
  jobs : ∀ job ∈ jobs, job.Sound fetch progress.round.seen
  ends : ∀ taskEnd ∈ progress.ends, taskEnd.Sound fetch progress.round.seen

theorem rooted_start (rank seedUrl : String) : Rooted fetch seedUrl (.start rank seedUrl) 0 := by
  refine ⟨accounted_start rank seedUrl, ?_, ?_, ?_, ?_⟩ <;> simp [start, Task.Descends]

theorem seen_offer (progress : Progress) (task : Task) :
    task.url ∈ (progress.offer task).round.seen ∧
      progress.round.seen ⊆ (progress.offer task).round.seen := by
  obtain ⟨known, offered⟩ | ⟨new, offered⟩ := progress.offer_cases task
  · rw [offered]
    exact ⟨known, List.Subset.refl _⟩
  · rw [offered]
    exact ⟨List.mem_cons_self, List.subset_cons_self _ _⟩

theorem accepted_offer (progress : Progress) (task : Task) :
    progress.accepted ⊆ (progress.offer task).accepted ∧
      ∀ other ∈ (progress.offer task).accepted, other ∈ progress.accepted ∨ other = task := by
  obtain ⟨_, offered⟩ | ⟨_, offered⟩ := progress.offer_cases task
  · rw [offered]
    exact ⟨List.Subset.refl _, fun _ => .inl⟩
  · rw [offered]
    exact ⟨List.subset_append_left _ _, by simp⟩

theorem Rooted.offer {seedUrl url : String} {progress : Progress} {jobs : Multiset Job} {task : Task}
    {page : Page} {index : Nat} {rest : List String}
    (rooted : Rooted fetch seedUrl progress (.offer task page index (url :: rest) ::ₘ jobs)) :
    Rooted fetch seedUrl (progress.offer (task.child index url))
      (.offer task page (index + 1) rest ::ₘ jobs) := by
  obtain ⟨found, left, offered⟩ := rooted.jobs _ (Multiset.mem_cons_self _ _)
  have known := rooted.accounted.job_accepted (Multiset.mem_cons_self _ _)
  have placed : page.links[index]? = some url := by
    rw [← List.head?_drop, ← left, List.head?_cons]
  have ⟨inside, same⟩ := List.getElem?_eq_some_iff.mp placed
  have ⟨new, kept⟩ := progress.seen_offer (task.child index url)
  have ⟨grown, origin⟩ := progress.accepted_offer (task.child index url)
  refine ⟨(rooted.accounted.offer _).goOn rfl rfl, grown rooted.root, ?_, ?_, ?_⟩
  · intro other member
    rcases origin other member with old | rfl
    · exact (rooted.descends other old).mono grown
    · exact .inr ⟨task, grown known, page, index, found, placed, rfl⟩
  · intro job member
    rcases Multiset.mem_cons.mp member with rfl | other
    · refine ⟨found, ?_, ?_⟩
      · rw [← List.tail_drop, ← left, List.tail_cons]
      · intro early member
        rw [← List.take_concat_get' _ _ inside, same, List.mem_append, List.mem_singleton] at member
        rcases member with before | rfl
        · exact kept (offered early before)
        · exact new
    · exact (rooted.jobs job (Multiset.mem_cons_of_mem other)).mono kept
  · have same : (progress.offer (task.child index url)).ends = progress.ends := by
      obtain ⟨_, offered⟩ | ⟨_, offered⟩ := progress.offer_cases (task.child index url) <;> rw [offered]
    rw [same]
    exact fun taskEnd member => (rooted.ends taskEnd member).mono kept

theorem rooted_keeps (seedUrl : String) : (trade fetch).Keeps (Rooted fetch seedUrl) where
  keep rooted same := { rooted with accounted := rooted.accounted.keep same }
  take rooted first :=
    { rooted with
      accounted := rooted.accounted.take first
      jobs := fun job member => (Multiset.mem_cons.mp member).elim (· ▸ trivial) (rooted.jobs job) }
  act {progress job jobs} rooted := by
    have accounted := (accounted_keeps fetch).act rooted.accounted
    have others : ∀ other ∈ jobs, other.Sound fetch progress.round.seen :=
      fun other member => rooted.jobs other (Multiset.mem_cons_of_mem member)
    have first := rooted.jobs job (Multiset.mem_cons_self _ _)
    cases job with
    | fetch task =>
      refine ⟨accounted, rooted.root, rooted.descends, ?_, rooted.ends⟩
      intro job member
      rcases Multiset.mem_cons.mp member with rfl | other
      · exact Job.sound_ofOutcome _ task
      · exact others job other
    | offer task page index rest =>
      cases rest with
      | nil =>
        obtain ⟨found, left, offered⟩ := first
        rw [List.take_of_length_le (List.drop_eq_nil_iff.mp left.symm)] at offered
        refine ⟨accounted, rooted.root, rooted.descends, ?_, rooted.ends⟩
        intro job member
        rcases Multiset.mem_cons.mp member with rfl | other
        · exact ⟨page, found, rfl, offered⟩
        · exact others job other
      | cons url rest => exact rooted.offer
    | conclude taskEnd =>
      refine ⟨accounted, rooted.root, rooted.descends, others, ?_⟩
      intro other member
      rcases List.mem_append.mp member with old | new
      · exact rooted.ends other old
      · exact List.mem_singleton.mp new ▸ first

end Progress

end PageLoad.Crawl

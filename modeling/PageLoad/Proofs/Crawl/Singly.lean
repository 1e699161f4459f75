import PageLoad.Proofs.Crawl.Exact
import PageLoad.Proofs.Work.Singly

/-!
Workers of whom no two are busy at the same time do what is done when a round is worked through in
order, however many they are and whichever of them takes the next task.
-/

namespace PageLoad.Crawl
open Work Fetch

variable {fetch : String → Outcome}

namespace Round

variable {round other : Round}

def bare (round : Round) : Round :=
  { round with queue := { (Queue.empty : Queue Task) with items := round.queue.items } }

theorem bare_inj : round.bare = other.bare ↔
    round.rank = other.rank ∧ round.seedUrl = other.seedUrl ∧ round.seen = other.seen ∧
      round.queue.items = other.queue.items ∧ round.tasks = other.tasks ∧
      round.bytes = other.bytes := by
  simp [bare]

theorem bare_offer (same : round.bare = other.bare) (task : Task) :
    (round.offer task).1.bare = (other.offer task).1.bare := by
  have ⟨rank, seedUrl, seen, items, tasks, bytes⟩ := bare_inj.mp same
  obtain ⟨known, kept⟩ | ⟨new, queued⟩ := round.offer_cases task
  · obtain ⟨_, kept'⟩ | ⟨new, _⟩ := other.offer_cases task
    · rw [kept, kept']
      exact same
    · exact absurd (seen ▸ known) new
  · obtain ⟨known, _⟩ | ⟨_, queued'⟩ := other.offer_cases task
    · exact absurd (seen ▸ known) new
    · rw [queued, queued']
      exact bare_inj.mpr ⟨rank, seedUrl, by rw [seen], by simp [items], tasks, bytes⟩

theorem bare_offerChildren (same : round.bare = other.bare) (task : Task) (index : Nat)
    (urls : List String) :
    (round.offerChildren task index urls).bare = (other.offerChildren task index urls).bare := by
  induction urls generalizing round other index with
  | nil => exact same
  | cons url urls ih => exact ih (bare_offer same (task.child index url)) (index + 1)

theorem bare_record (same : round.bare = other.bare) (bytes : Nat) :
    (round.record bytes).bare = (other.record bytes).bare := by
  have ⟨rank, seedUrl, seen, items, tasks, total⟩ := bare_inj.mp same
  exact bare_inj.mpr ⟨rank, seedUrl, seen, items, by simp [record, tasks], by simp [record, total]⟩

theorem bare_process (same : round.bare = other.bare) (task : Task) (outcome : Outcome) :
    (round.process task outcome).1.bare = (other.process task outcome).1.bare ∧
      (round.process task outcome).2 = (other.process task outcome).2 := by
  cases outcome with
  | page page => exact ⟨bare_record (bare_offerChildren same task 0 page.links) _, rfl⟩
  | failed failure => exact ⟨same, rfl⟩
  | crashed crash => exact ⟨same, rfl⟩

/-! Working through a queue in order, task by task. -/

theorem drain_of_empty (fetch : String → Outcome) (empty : round.queue.items = []) (limit : Nat) :
    round.drain fetch limit = (round, []) := by
  have none : round.queue.take? = none := by simp [Queue.take?, empty]
  cases limit with
  | zero => rfl
  | succ limit => simp only [drain, none]

def work (fetch : String → Outcome) (round : Round) (task : Task) (rest : List Task) :
    Round × TaskEnd :=
  process { round with queue := { round.queue with items := rest } } task (fetch task.url)

theorem drain_of_items (fetch : String → Outcome) {task : Task} {rest : List Task}
    (items : round.queue.items = task :: rest) (limit : Nat) :
    round.drain fetch (limit + 1) =
      (((round.work fetch task rest).1.finish.drain fetch limit).1,
        (round.work fetch task rest).2 :: ((round.work fetch task rest).1.finish.drain fetch limit).2) := by
  have first : round.queue.take? = some (task, { round.queue with items := rest }) := by
    simp [Queue.take?, items]
  simp only [drain, first, work]

theorem drain_add (fetch : String → Outcome) (round : Round) (early late : Nat) :
    round.drain fetch (early + late) =
      (((round.drain fetch early).1.drain fetch late).1,
        (round.drain fetch early).2 ++ ((round.drain fetch early).1.drain fetch late).2) := by
  induction early generalizing round with
  | zero => rw [Nat.zero_add, drain, List.nil_append]
  | succ early ih =>
    cases items : round.queue.items with
    | nil => simp only [drain_of_empty fetch items, List.append_nil]
    | cons task rest =>
      rw [Nat.add_right_comm, drain_of_items fetch items, drain_of_items fetch items, ih,
        List.cons_append]

theorem drain_succ (fetch : String → Outcome) {count : Nat} {task : Task} {rest : List Task}
    (items : (round.drain fetch count).1.queue.items = task :: rest) :
    round.drain fetch (count + 1) =
      (((round.drain fetch count).1.work fetch task rest).1.finish,
        (round.drain fetch count).2 ++ [((round.drain fetch count).1.work fetch task rest).2]) := by
  rw [drain_add, drain_of_items fetch items]
  rfl

/-- Once the queue is empty, it does not matter how many more tasks there might have been. -/
theorem drain_unique {few many : Nat} (fewer : few ≤ many)
    (empty : (round.drain fetch few).1.queue.items = []) :
    round.drain fetch many = round.drain fetch few := by
  obtain ⟨more, rfl⟩ := Nat.exists_eq_add_of_le fewer
  rw [drain_add, drain_of_empty fetch empty, List.append_nil]

end Round

def Job.completed (fetch : String → Outcome) (round : Round) : Job → Round × TaskEnd
  | .fetch task => round.process task (fetch task.url)
  | .offer task page index rest =>
    ((round.offerChildren task index rest).record page.body.length,
      .reported (TaskReport.ofPage task page))
  | .conclude taskEnd => (round, taskEnd)

theorem Job.completed_bare (fetch : String → Outcome) {round other : Round}
    (same : round.bare = other.bare) (job : Job) :
    (job.completed fetch round).1.bare = (job.completed fetch other).1.bare ∧
      (job.completed fetch round).2 = (job.completed fetch other).2 := by
  cases job with
  | fetch task => exact Round.bare_process same task _
  | offer task page index rest =>
    exact ⟨Round.bare_record (Round.bare_offerChildren same task index rest) _, rfl⟩
  | conclude taskEnd => exact ⟨same, rfl⟩

theorem Job.completed_ofOutcome (fetch : String → Outcome) (round : Round) (task : Task) :
    (Job.ofOutcome task (fetch task.url)).completed fetch round =
      round.process task (fetch task.url) ∧
    (Job.ofOutcome task (fetch task.url)).awaited? = none := by
  cases fetch task.url <;> exact ⟨rfl, rfl⟩

namespace Progress

/-- Once the job under way is finished, the progress is that of a round of which some tasks have been
worked through in order. -/
def Drains (fetch : String → Outcome) (start : Round) (progress : Progress) : Option Job → Prop
  | none => ∃ count, progress.round.bare = (start.drain fetch count).1.bare ∧
      progress.ends = (start.drain fetch count).2 ∧
      progress.fetched = (start.drain fetch count).2.map (·.task.url)
  | some job => ∃ count,
      (job.completed fetch progress.round).1.bare = (start.drain fetch count).1.bare ∧
      progress.ends ++ [(job.completed fetch progress.round).2] = (start.drain fetch count).2 ∧
      progress.fetched ++ job.awaited?.toList = (start.drain fetch count).2.map (·.task.url)

theorem drains_start (fetch : String → Outcome) (rank seedUrl : String) :
    Drains fetch (Round.start rank seedUrl) (.start rank seedUrl) none := ⟨0, rfl, rfl, rfl⟩

variable {start : Round} {progress : Progress}

theorem Drains.keep {job : Option Job} (drains : Drains fetch start progress job) {queue : Queue Task}
    (items : queue.items = progress.round.queue.items) :
    Drains fetch start { progress with round := { progress.round with queue } } job := by
  have same : Round.bare { progress.round with queue } = progress.round.bare :=
    Round.bare_inj.mpr ⟨rfl, rfl, rfl, items, rfl, rfl⟩
  cases job with
  | none =>
    obtain ⟨count, round, ends, fetched⟩ := drains
    exact ⟨count, same.trans round, ends, fetched⟩
  | some job =>
    obtain ⟨count, round, ends, fetched⟩ := drains
    have ⟨alike, ended⟩ := job.completed_bare fetch same
    exact ⟨count, alike.trans round, by rw [ended]; exact ends, fetched⟩

theorem Drains.take (drains : Drains fetch start progress none) {task : Task} {queue : Queue Task}
    (first : progress.round.queue.items = task :: queue.items) :
    Drains fetch start { progress with round := { progress.round with queue } } (some (.fetch task)) := by
  obtain ⟨count, round, ends, fetched⟩ := drains
  have ⟨rank, seedUrl, seen, items, tasks, bytes⟩ := Round.bare_inj.mp round
  rw [first] at items
  have same : Round.bare { progress.round with queue } =
      Round.bare { (start.drain fetch count).1 with
        queue := { (start.drain fetch count).1.queue with items := queue.items } } :=
    Round.bare_inj.mpr ⟨rank, seedUrl, seen, rfl, tasks, bytes⟩
  have ⟨alike, ended⟩ := Round.bare_process same task (fetch task.url)
  have named := Round.process_task { progress.round with queue } task (fetch task.url)
  refine ⟨count + 1, ?_, ?_, ?_⟩
  · rw [Round.drain_succ fetch items.symm]
    exact alike
  · rw [Round.drain_succ fetch items.symm, ends]
    exact congrArg (_ ++ [·]) ended
  · rw [Round.drain_succ fetch items.symm, List.map_append, fetched]
    exact congrArg (_ ++ [·]) (congrArg (·.url) (ended ▸ named)).symm

theorem drains_keepsSingly (fetch : String → Outcome) (start : Round) :
    (trade fetch).KeepsSingly (Drains fetch start) where
  keep drains same := drains.keep same
  take drains first := drains.take first
  act {progress job} drains := by
    obtain ⟨count, round, ends, fetched⟩ := drains
    cases job with
    | fetch task =>
      have ⟨same, asked⟩ := Job.completed_ofOutcome fetch progress.round task
      refine ⟨count, ?_, ?_, ?_⟩
      · exact (congrArg (·.1.bare) same).trans round
      · exact (congrArg (progress.ends ++ [·.2]) same).trans ends
      · rw [asked, Option.toList_none, List.append_nil]
        exact fetched
    | offer task page index rest =>
      cases rest with
      | nil => exact ⟨count, round, ends, fetched⟩
      | cons url rest =>
        have same : (progress.offer (task.child index url)).ends = progress.ends ∧
            (progress.offer (task.child index url)).fetched = progress.fetched := ⟨rfl, rfl⟩
        exact ⟨count, round, ends, fetched⟩
    | conclude taskEnd => exact ⟨count, round, ends, by rw [← fetched]; exact (List.append_nil _).symm⟩

end Progress

variable {rank seedUrl : String} {workers : Nat} {schedule : List Actor} {last : Crew Progress Job}

/-- Workers of whom no two are busy at the same time work through a round in order. -/
theorem runSingly_drains
    (ran : (crew rank seedUrl workers).runSingly? (trade fetch) schedule = some last) :
    Progress.Drains fetch (Round.start rank seedUrl) last.state last.jobs.head? := by
  have idle : (crew rank seedUrl workers).jobs = [] := Crew.start_jobs _ _
  exact Crew.runSingly_keeps (Progress.drains_keepsSingly fetch _)
    (by rw [idle]; exact Nat.zero_le 1) (by rw [idle]; exact Progress.drains_start fetch rank seedUrl) ran

theorem drain_empties {urls : List String} (covers : Covers fetch seedUrl urls) {limit : Nat}
    (room : urls.length ≤ limit) (rank : String) :
    ((Round.start rank seedUrl).drain fetch limit).1.queue.items = [] := by
  obtain ⟨last, ⟨queue, mirrors, same⟩, _, _, _, finished⟩ := drain_finished covers room rank
  rw [← mirrors.items, ← finished.empty, same]

theorem drained_singly {urls : List String} (covers : Covers fetch seedUrl urls) {limit : Nat}
    (room : urls.length ≤ limit)
    (ran : (crew rank seedUrl workers).runSingly? (trade fetch) schedule = some last)
    (done : last.state.round.queue.outstanding = 0) :
    last.state.round.bare = ((Round.start rank seedUrl).drain fetch limit).1.bare ∧
      last.state.ends = ((Round.start rank seedUrl).drain fetch limit).2 ∧
      last.state.fetched =
        ((Round.start rank seedUrl).drain fetch limit).2.map (·.task.url) := by
  have sound := Crew.run_sound (crew_sound fetch rank seedUrl workers) (Crew.run?_of_runSingly? ran)
  have drains := runSingly_drains ran
  rw [sound.idle done] at drains
  obtain ⟨count, round, ends, fetched⟩ := drains
  have empty : ((Round.start rank seedUrl).drain fetch count).1.queue.items = [] := by
    rw [← (Round.bare_inj.mp round).2.2.2.1]
    exact (sound.quiet done).1
  have same : (Round.start rank seedUrl).drain fetch limit =
      (Round.start rank seedUrl).drain fetch count := by
    obtain fewer | more := Nat.le_total count limit
    · exact Round.drain_unique fewer empty
    · exact (Round.drain_unique more (drain_empties covers room rank)).symm
  rw [same]
  exact ⟨round, ends, fetched⟩

def Happening.end? : Happening → Option TaskEnd
  | .worked taskEnd => some taskEnd
  | .skipped _ | .started _ _ | .ended _ => none

theorem runRound_ends (fetch : String → Outcome) (limit : Nat) (seed : Seed) :
    (runRound fetch limit seed).filterMap (·.end?) =
      ((Round.start seed.rank seed.url.text).drain fetch limit).2 := by
  have worked (ends : List TaskEnd) : (ends.map Happening.worked).filterMap (·.end?) = ends := by
    rw [List.filterMap_map]
    exact List.filterMap_some
  rw [runRound, List.filterMap_append, List.filterMap_cons_none rfl, worked]
  exact List.append_nil _

/-- Workers come to the end of a round with some ends of tasks, whenever no two of them are busy at the
same time. -/
structure EndsInOrder (fetch : String → Outcome) (seed : Seed) (workers : Nat) (ends : List TaskEnd) :
    Prop where
  stops : (crew seed.rank seed.url.text workers).EndsSingly (trade fetch)
  same : ∀ schedule last,
    (crew seed.rank seed.url.text workers).runSingly? (trade fetch) schedule = some last →
    last.watch = .through → last.state.ends = ends ∧ last.state.fetched = ends.map (·.task.url)

theorem runRound_endsInOrder (site : Site) (workers : Nat) (seed : Seed) :
    EndsInOrder site.fetch seed (poolSize workers)
      ((runRound site.fetch site.size seed).filterMap (·.end?)) := by
  have sound := crew_sound site.fetch seed.rank seed.url.text (poolSize workers)
  refine ⟨(round_ends site workers seed).singly sound ?_ ?_, ?_⟩
  · simp [crew, Crew.start, poolSize]
  · rw [crew, Crew.start_jobs]
    exact Nat.zero_le 1
  · intro schedule last ran through
    have done := (Crew.run_sound sound (Crew.run?_of_runSingly? ran)).released (by rw [through]; rfl)
    rw [runRound_ends]
    exact (drained_singly (Site.covers site _) (Nat.le_of_eq (site.urls_length _)) ran done).2

end PageLoad.Crawl

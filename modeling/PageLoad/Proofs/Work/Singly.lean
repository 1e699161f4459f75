import PageLoad.Proofs.Work.Progress

/-!
A crew in which no two workers are busy at the same time. What holds of the shared state and the one
job that may be under way needs to be checked for a single worker only, whoever takes the turns; and
such a crew comes to its end like any other.
-/

namespace PageLoad.Work

variable {State Item Job : Type} {trade : Trade State Item Job}

/-- A property of the shared state and of the job under way, if there is one, that holds as long as
there is no more than one. -/
structure Trade.KeepsSingly (trade : Trade State Item Job) (Holds : State → Option Job → Prop) :
    Prop where
  keep {state : State} {job : Option Job} {queue : Queue Item} : Holds state job →
    queue.items = (trade.queue state).items → Holds (trade.withQueue state queue) job
  take {state : State} {item : Item} {queue : Queue Item} : Holds state none →
    (trade.queue state).items = item :: queue.items →
    Holds (trade.withQueue state queue) (some (trade.jobOf item))
  act {state : State} {job : Job} : Holds state (some job) →
    Holds (trade.act state job).1 (trade.act state job).2

namespace Crew

theorem jobs_eq_append {crew : Crew State Job} {before after : List (Stage Job)} {stage : Stage Job}
    (split : crew.stages = before ++ stage :: after) :
    crew.jobs = before.filterMap (·.job?) ++ (stage.job?.toList ++ after.filterMap (·.job?)) := by
  rw [jobs, split, List.filterMap_append, List.filterMap_cons]
  cases stage.job? <;> rfl

variable {Holds : State → Option Job → Prop}

private theorem alone_of_busy {crew : Crew State Job} (single : crew.jobs.length ≤ 1)
    {before after : List (Stage Job)} {stage : Stage Job} {job : Job}
    (split : crew.stages = before ++ stage :: after) (busy : stage.job? = some job) :
    before.filterMap (·.job?) = [] ∧ after.filterMap (·.job?) = [] ∧ crew.jobs = [job] := by
  have jobs := jobs_eq_append split
  rw [busy, Option.toList_some, List.singleton_append] at jobs
  rw [jobs, List.length_append, List.length_cons] at single
  have front : before.filterMap (·.job?) = [] := List.length_eq_zero_iff.mp (by omega)
  have back : after.filterMap (·.job?) = [] := List.length_eq_zero_iff.mp (by omega)
  exact ⟨front, back, by rw [jobs, front, back, List.nil_append]⟩

private theorem ask_singly (keeps : trade.KeepsSingly Holds) {crew next : Crew State Job}
    {before after : List (Stage Job)} {stage : Stage Job} {queue : Queue Item}
    (split : crew.stages = before ++ stage :: after) (free : stage.job? = none)
    (items : queue.items = (trade.queue crew.state).items)
    (state : next.state = (trade.asked crew.state queue.pop).1)
    (stages : next.stages = before ++ (trade.asked crew.state queue.pop).2 :: after)
    (single : next.jobs.length ≤ 1) (holds : Holds crew.state crew.jobs.head?) :
    Holds next.state next.jobs.head? := by
  have jobs := jobs_eq_append split
  have jobs' := jobs_eq_append stages
  rw [free, Option.toList_none, List.nil_append] at jobs
  obtain ⟨item, left, found, taken⟩ | ⟨_, _, taken⟩ | ⟨_, _, taken⟩ := queue.pop_cases
  · rw [taken] at state stages
    obtain ⟨front, back, only⟩ := alone_of_busy single stages rfl
    rw [jobs, front, back] at holds
    rw [state, only]
    exact keeps.take holds (items ▸ found)
  · have same : next.jobs = crew.jobs := by rw [jobs', jobs, taken]; rfl
    rw [taken] at state
    rw [state, same]
    exact keeps.keep holds items
  · have same : next.jobs = crew.jobs := by rw [jobs', jobs, taken]; rfl
    rw [taken] at state
    rw [state, same]
    exact keeps.keep holds items

theorem step_singly (keeps : trade.KeepsSingly Holds) {crew next : Crew State Job} {actor : Actor}
    (before : crew.jobs.length ≤ 1) (holds : Holds crew.state crew.jobs.head?)
    (stepped : crew.step? trade actor = some next) (after : next.jobs.length ≤ 1) :
    Holds next.state next.jobs.head? := by
  cases actor with
  | overseer =>
    obtain ⟨queue, turned, state, stages⟩ := step?_overseer stepped
    rw [state, jobs, stages]
    exact keeps.keep holds (Watch.turn_keeps turned).1
  | worker place =>
    obtain ⟨early, stage, late, stage', split, turned, stages, _⟩ := step?_worker stepped
    obtain ⟨rfl, asked⟩ | ⟨ticket, rfl, called, asked⟩ | ⟨job, rfl, acted, became⟩ |
      ⟨rfl, _, released, rfl⟩ := Trade.turn_cases turned
    · obtain ⟨state, rfl⟩ := Prod.mk.inj asked
      exact ask_singly keeps split rfl rfl state stages after holds
    · obtain ⟨_, _, _, resumed⟩ := Queue.resumePop_of_isCalled called
      rw [resumed] at asked
      obtain ⟨state, rfl⟩ := Prod.mk.inj asked
      have items : ((trade.queue crew.state).removeConsumer ticket).items =
        (trade.queue crew.state).items := rfl
      exact ask_singly keeps split rfl items state stages after holds
    · obtain ⟨front, back, only⟩ := alone_of_busy before split rfl
      have left : stage'.job? = (trade.act crew.state job).2 := by
        rw [became]
        cases (trade.act crew.state job).2 <;> rfl
      have jobs : next.jobs = (trade.act crew.state job).2.toList := by
        rw [jobs_eq_append stages, front, back, left, List.nil_append, List.append_nil]
      rw [only] at holds
      rw [acted, jobs, Option.head?_toList]
      exact keeps.act holds
    · rw [jobs_eq_append split] at holds
      rw [released, jobs_eq_append stages]
      exact keeps.keep holds rfl

theorem runSingly_keeps (keeps : trade.KeepsSingly Holds) {crew last : Crew State Job}
    {schedule : List Actor} (single : crew.jobs.length ≤ 1) (holds : Holds crew.state crew.jobs.head?)
    (ran : crew.runSingly? trade schedule = some last) : Holds last.state last.jobs.head? := by
  induction schedule generalizing crew with
  | nil =>
    cases ran
    exact holds
  | cons actor schedule ih =>
    obtain ⟨next, stepped, ran⟩ := Option.bind_eq_some_iff.mp ran
    split at ran
    next few => exact ih few (step_singly keeps single holds stepped few) ran
    next => cases ran

/-! Going on in that way. -/

theorem step?_of_split {crew : Crew State Job} {before after : List (Stage Job)}
    {stage stage' : Stage Job} {state : State} (split : crew.stages = before ++ stage :: after)
    (turned : trade.turn crew.state stage = some (state, stage')) :
    crew.step? trade (.worker before.length) =
      some { crew with state, stages := before ++ stage' :: after } := by
  simp [step?, turned, split]

theorem exists_step_singly {crew : Crew State Job} (sound : crew.Sound trade)
    (staffed : crew.stages ≠ []) (going : crew.watch ≠ .through) (single : crew.jobs.length ≤ 1) :
    ∃ actor next, crew.step? trade actor = some next ∧ next.jobs.length ≤ 1 := by
  cases under : crew.jobs with
  | nil =>
    obtain ⟨actor, stepped⟩ := exists_step sound staffed going
    obtain ⟨next, stepped⟩ := Option.isSome_iff_exists.mp stepped
    refine ⟨actor, next, stepped, ?_⟩
    cases actor with
    | overseer =>
      obtain ⟨_, _, _, stages⟩ := step?_overseer stepped
      rw [jobs, stages, ← jobs]
      exact single
    | worker place =>
      obtain ⟨before, stage, after, stage', split, _, stages, _⟩ := step?_worker stepped
      have none := (jobs_eq_append split).symm.trans under
      simp only [List.append_eq_nil_iff] at none
      rw [jobs_eq_append stages, none.1, none.2.2, List.nil_append, List.append_nil]
      cases stage'.job? <;> simp
  | cons job rest =>
    -- whoever is busy can go on with its job
    obtain ⟨stage, member, busy⟩ := List.mem_filterMap.mp (under ▸ List.mem_cons_self : job ∈ crew.jobs)
    obtain ⟨before, after, split⟩ := List.append_of_mem member
    obtain rfl : stage = .busy job := by
      cases stage <;> simp_all [Stage.job?]
    obtain ⟨front, back, _⟩ := alone_of_busy single split rfl
    refine ⟨_, _, step?_of_split split rfl, ?_⟩
    rw [jobs_eq_append rfl, front, back, List.nil_append, List.append_nil]
    cases (trade.act crew.state job).2 <;> simp [Stage.job?]

/-- Whatever the order of their turns, as long as no two workers are busy, a crew comes to an end, and
then the overseer is through. -/
structure EndsSingly (trade : Trade State Item Job) (crew : Crew State Job) : Prop where
  bounded : ∃ bound, ∀ schedule last, crew.runSingly? trade schedule = some last →
    schedule.length ≤ bound
  going : ∀ schedule last, crew.runSingly? trade schedule = some last → last.watch ≠ .through →
    ∃ actor next, last.step? trade actor = some next ∧ next.jobs.length ≤ 1

theorem run?_of_runSingly? {crew last : Crew State Job} {schedule : List Actor}
    (ran : crew.runSingly? trade schedule = some last) : crew.run? trade schedule = some last := by
  induction schedule generalizing crew with
  | nil => exact ran
  | cons actor schedule ih =>
    obtain ⟨next, stepped, ran⟩ := Option.bind_eq_some_iff.mp ran
    split at ran
    next => exact Option.bind_eq_some_iff.mpr ⟨next, stepped, ih ran⟩
    next => cases ran

theorem runSingly?_jobs {crew last : Crew State Job} {schedule : List Actor}
    (single : crew.jobs.length ≤ 1) (ran : crew.runSingly? trade schedule = some last) :
    last.jobs.length ≤ 1 := by
  induction schedule generalizing crew with
  | nil =>
    cases ran
    exact single
  | cons actor schedule ih =>
    obtain ⟨next, _, ran⟩ := Option.bind_eq_some_iff.mp ran
    split at ran
    next few => exact ih few ran
    next => cases ran

theorem runSingly?_concat {crew last next : Crew State Job} {schedule : List Actor} {actor : Actor}
    (ran : crew.runSingly? trade schedule = some last) (stepped : last.step? trade actor = some next)
    (single : next.jobs.length ≤ 1) : crew.runSingly? trade (schedule ++ [actor]) = some next := by
  induction schedule generalizing crew with
  | nil =>
    cases ran
    simp [runSingly?, stepped, single]
  | cons first schedule ih =>
    obtain ⟨middle, begun, ran⟩ := Option.bind_eq_some_iff.mp ran
    split at ran
    next few => simpa [runSingly?, begun, few] using ih ran
    next => cases ran

theorem Ends.singly {crew : Crew State Job} (ends : crew.Ends trade) (sound : crew.Sound trade)
    (staffed : crew.stages ≠ []) (single : crew.jobs.length ≤ 1) : crew.EndsSingly trade where
  bounded := by
    obtain ⟨bound, few⟩ := ends.bounded
    exact ⟨bound, fun schedule last ran => few schedule last (run?_of_runSingly? ran)⟩
  going schedule last ran going := by
    have ran' := run?_of_runSingly? ran
    exact exists_step_singly (run_sound sound ran') (run?_staffed ran' staffed) going
      (runSingly?_jobs single ran)

end Crew

end PageLoad.Work

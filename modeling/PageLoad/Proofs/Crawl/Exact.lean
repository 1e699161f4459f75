import PageLoad.Proofs.Crawl.InOrder
import PageLoad.Proofs.Crawl.Reach

/-!
A round comes to its end with each URL that its seed leads to fetched once and each page among
them reported, however many workers there are and in whatever order they act.
-/

namespace PageLoad.Crawl
open Work Fetch

variable {fetch : String → Outcome} {rank seedUrl : String} {workers : Nat}

theorem crew_sound (fetch : String → Outcome) (rank seedUrl : String) (workers : Nat) :
    (crew rank seedUrl workers).Sound (trade fetch) :=
  Crew.start_sound _ [Task.root seedUrl] workers rfl

theorem crew_rooted (fetch : String → Outcome) (rank seedUrl : String) (workers : Nat) :
    Progress.Rooted fetch seedUrl (crew rank seedUrl workers).state (crew rank seedUrl workers).jobs := by
  rw [crew, Crew.start_jobs]
  exact Progress.rooted_start rank seedUrl

theorem reached_rooted {last : Crew Progress Job}
    (reached : Crew.Reaches (trade fetch) (crew rank seedUrl workers) last) :
    Progress.Rooted fetch seedUrl last.state last.jobs := by
  obtain ⟨_, ran⟩ := reached
  exact Crew.run_keeps (Progress.rooted_keeps seedUrl) (crew_rooted fetch rank seedUrl workers) ran

theorem reached_finished {last : Crew Progress Job}
    (reached : Crew.Reaches (trade fetch) (crew rank seedUrl workers) last)
    (done : ((trade fetch).queue last.state).outstanding = 0) :
    Progress.Finished fetch seedUrl last.state := by
  have sound := reached.sound (crew_sound fetch rank seedUrl workers)
  have rooted := reached_rooted reached
  rw [sound.idle done] at rooted
  exact ⟨rooted, (sound.quiet done).1⟩

/-- What is outstanding is what is queued and what the workers hold. Once it is nothing, every task
has come to its end and the round stays as it is; and nobody is told so before. -/
theorem drain_sound (fetch : String → Outcome) (rank seedUrl : String) (workers : Nat)
    {now : Crew Progress Job}
    (reached : Crew.Reaches (trade fetch) (crew rank seedUrl workers) now) :
    now.state.round.queue.outstanding =
      now.state.round.queue.items.length + now.stages.countP (·.isHolding) ∧
    (now.state.round.queue.outstanding = 0 →
      now.state.round.queue.items = [] ∧ (∀ stage ∈ now.stages, stage.isHolding = false) ∧
      now.state.accepted.Perm (now.state.ends.map (·.task)) ∧
      (∀ taskEnd ∈ now.state.ends, taskEnd.Sound fetch now.state.round.seen) ∧
      ∀ later, Crew.Reaches (trade fetch) now later →
        later.state.round.queue.outstanding = 0 ∧ later.state.accepted = now.state.accepted ∧
        later.state.fetched = now.state.fetched ∧ later.state.ends = now.state.ends ∧
        later.state.round.tasks = now.state.round.tasks ∧
        later.state.round.bytes = now.state.round.bytes) ∧
    (now.watch.isReleased = true → now.state.round.queue.outstanding = 0) := by
  have sound := Crew.Reaches.sound reached (crew_sound fetch rank seedUrl workers)
  refine ⟨sound.outstanding, ?_, sound.released⟩
  intro done
  have finished := reached_finished reached done
  refine ⟨(sound.quiet done).1, (sound.quiet done).2, finished.ends_perm, finished.rooted.ends, ?_⟩
  rintro later ⟨schedule, ran⟩
  have ⟨still, same⟩ := Crew.run_quiet
    (fun progress : Progress => (progress.accepted, progress.fetched, progress.ends,
      progress.round.tasks, progress.round.bytes))
    (fun _ _ => rfl) sound done ran
  simp only [Prod.mk.injEq] at same
  exact ⟨still, same⟩

/-- One worker finds that the seed does not exist. -/
theorem drain_sound_missing_seed : ∃ now,
    Crew.Reaches (trade (Site.fetch [])) (crew "1" "http://www.example.com/" 1) now ∧
      now.watch.isReleased = true ∧ now.state.round.queue.outstanding = 0 :=
  have reached := ⟨[.worker 0, .worker 0, .worker 0, .worker 0, .overseer], rfl⟩
  ⟨_, reached, rfl, (drain_sound (Site.fetch []) "1" "http://www.example.com/" 1 reached).2.2 rfl⟩

/-! A round that is worked through in order. -/

theorem Round.drain_stops (fetch : String → Outcome) (limit : Nat) (round : Round) :
    (round.drain fetch limit).1.queue.items = [] ∨ (round.drain fetch limit).2.length = limit := by
  induction limit generalizing round with
  | zero => exact .inr rfl
  | succ limit ih =>
    cases items : round.queue.items with
    | nil =>
      have empty : round.queue.take? = none := by simp [Queue.take?, items]
      simp only [drain, empty]
      exact .inl items
    | cons task rest =>
      have first : round.queue.take? = some (task, { round.queue with items := rest }) := by
        simp [Queue.take?, items]
      simp only [drain, first, List.length_cons, Nat.add_right_cancel_iff]
      exact ih _

/-- In order, a round gets as far as its workers do, if the limit leaves room for all the URLs. -/
theorem drain_finished {urls : List String} (covers : Covers fetch seedUrl urls) {limit : Nat}
    (room : urls.length ≤ limit) (rank : String) :
    ∃ last, last.Mirrors ((Round.start rank seedUrl).drain fetch limit).1 ∧
      last.ends = ((Round.start rank seedUrl).drain fetch limit).2 ∧
      last.fetched = ((Round.start rank seedUrl).drain fetch limit).2.map (·.task.url) ∧
      Crew.Reaches (trade fetch) (crew rank seedUrl 1) ⟨last, [.idle], .joining⟩ ∧
      Progress.Finished fetch seedUrl last := by
  have fresh : (Progress.start rank seedUrl).Mirrors (Round.start rank seedUrl) :=
    ⟨_, ⟨⟨true, rfl⟩, rfl⟩, rfl⟩
  obtain ⟨last, mirrors, ends, fetched, reached⟩ :=
    fresh.drain limit [] .joining (crew_sound fetch rank seedUrl 1)
  change Crew.Reaches (trade fetch) (crew rank seedUrl 1) ⟨last, [.idle], .joining⟩ at reached
  have rooted := reached_rooted reached
  change Progress.Rooted fetch seedUrl last 0 at rooted
  refine ⟨last, mirrors, ends, fetched, reached, rooted, ?_⟩
  obtain empty | full := Round.drain_stops fetch limit (Round.start rank seedUrl)
  · obtain ⟨queue, mirrored, same⟩ := mirrors
    rw [same]
    exact mirrored.items.trans empty
  · have few := rooted.accepted_length_le covers
    have counted := congrArg Multiset.card rooted.accounted.tasks
    have ended : last.ends.length = limit := ends ▸ full
    simp only [Multiset.coe_card, Multiset.card_add, Multiset.map_zero, Multiset.card_zero,
      List.length_map, ended] at counted
    exact List.length_eq_zero_iff.mp (by omega)

def Event.report? : Event → Option TaskReport
  | .task report => some report
  | .roundStart _ _ | .roundEnd _ => none

theorem fetched_worked (ends : List TaskEnd) :
    (ends.map Happening.worked).filterMap (·.fetched?) = ends.map (·.task.url) := by
  induction ends with
  | nil => rfl
  | cons first rest ih =>
    rw [List.map_cons, List.filterMap_cons, ih]
    cases first <;> rfl

theorem events_worked (ends : List TaskEnd) :
    (ends.map Happening.worked).filterMap (·.event?) =
      (ends.filterMap (·.report?)).map Event.task := by
  induction ends with
  | nil => rfl
  | cons first rest ih =>
    cases first with
    | reported report => exact congrArg (Event.task report :: ·) ih
    | dropped task failure => exact ih
    | crashed task crash => exact ih

theorem reports_task (reports : List TaskReport) :
    (reports.map Event.task).filterMap (·.report?) = reports := by
  rw [List.filterMap_map]
  exact List.filterMap_some

theorem runRound_fetched (limit : Nat) (seed : Seed) :
    (runRound fetch limit seed).filterMap (·.fetched?) =
      ((Round.start seed.rank seed.url.text).drain fetch limit).2.map (·.task.url) := by
  rw [runRound, List.filterMap_append, List.filterMap_cons_none rfl, fetched_worked]
  exact List.append_nil _

theorem runRound_events (limit : Nat) (seed : Seed) :
    (runRound fetch limit seed).filterMap (·.event?) =
      .roundStart seed.rank seed.url.text ::
        (((Round.start seed.rank seed.url.text).drain fetch limit).2.filterMap (·.report?)).map .task ++
        [.roundEnd (((Round.start seed.rank seed.url.text).drain fetch limit).1.summary .zero)] := by
  rw [runRound, List.filterMap_append, ← events_worked]
  rfl

theorem runRound_reports (limit : Nat) (seed : Seed) :
    ((runRound fetch limit seed).filterMap (·.event?)).filterMap (·.report?) =
      ((Round.start seed.rank seed.url.text).drain fetch limit).2.filterMap (·.report?) := by
  rw [runRound_events, List.filterMap_append, List.filterMap_cons_none rfl, reports_task]
  exact List.append_nil _

theorem runRound_exact {urls : List String} {seed : Seed} (covers : Covers fetch seed.url.text urls)
    {limit : Nat} (room : urls.length ≤ limit) :
    Exact fetch seed.url.text ((runRound fetch limit seed).filterMap (·.fetched?))
      (((runRound fetch limit seed).filterMap (·.event?)).filterMap (·.report?)) := by
  obtain ⟨last, _, ends, fetched, _, finished⟩ := drain_finished covers room seed.rank
  have exact := finished.exact
  rw [fetched, ends] at exact
  rw [runRound_fetched, runRound_reports]
  exact exact

/-- Whatever the order of their turns, workers come to the end of a round. -/
theorem round_ends (site : Site) (workers : Nat) (seed : Seed) :
    (crew seed.rank seed.url.text (poolSize workers)).Ends (trade site.fetch) := by
  refine Crew.ends (Progress.rooted_keeps _) (Progress.spends (Site.covers site _))
    (crew_sound _ _ _ _) ?_ (crew_rooted _ _ _ _)
  simp [crew, Crew.start, poolSize]

/-- Whatever a site is and however many workers there are: in any order of their turns a round
ends, and has then fetched the URLs that its seed leads to, each once, and reported the pages
among them. A round that is worked through in order does the same. -/
theorem round_exact (site : Site) (workers : Nat) (seed : Seed) :
    (crew seed.rank seed.url.text (poolSize workers)).Ends (trade site.fetch) ∧
    (∀ last, Crew.Reaches (trade site.fetch) (crew seed.rank seed.url.text (poolSize workers)) last →
      last.watch = .through →
      Exact site.fetch seed.url.text last.state.fetched (last.state.ends.filterMap (·.report?))) ∧
    Exact site.fetch seed.url.text ((runRound site.fetch site.size seed).filterMap (·.fetched?))
      (((runRound site.fetch site.size seed).filterMap (·.event?)).filterMap (·.report?)) := by
  have covers := Site.covers site seed.url.text
  refine ⟨round_ends site workers seed, ?_, ?_⟩
  · intro last reached through
    have sound := Crew.Reaches.sound reached (crew_sound _ _ _ _)
    have done := sound.released (by rw [through]; rfl)
    exact (reached_finished reached done).exact
  · exact runRound_exact covers (Nat.le_of_eq (site.urls_length _))

end PageLoad.Crawl

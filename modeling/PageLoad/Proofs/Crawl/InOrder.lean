import PageLoad.Proofs.Crawl.Workers
import PageLoad.Proofs.Work.InOrder

/-!
A round that is worked through in order is one of the ways in which several workers may go about
it: the first of them does everything.
-/

namespace PageLoad.Crawl
open Work Fetch

variable {fetch : String → Outcome}

theorem Round.process_task (round : Round) (task : Task) (outcome : Outcome) :
    (round.process task outcome).2.task = task := by
  cases outcome <;> rfl

/-- The progress of workers none of whom waits is that of a round, apart from the permit. -/
def Progress.Mirrors (progress : Progress) (round : Round) : Prop :=
  ∃ queue : Queue Task, queue.Mirrors round.queue ∧ progress.round = { round with queue }

namespace Progress.Mirrors

variable {progress : Progress} {round : Round}

theorem offer (mirrors : progress.Mirrors round) (task : Task) :
    (progress.offer task).Mirrors (round.offer task).1 := by
  obtain ⟨queue, mirrored, same⟩ := mirrors
  have seen : progress.round.seen = round.seen := by rw [same]
  obtain ⟨known, offered⟩ | ⟨new, offered⟩ := round.offer_cases task
  · obtain ⟨_, kept⟩ | ⟨new, _⟩ := progress.offer_cases task
    · rw [offered, kept]
      exact ⟨queue, mirrored, same⟩
    · exact absurd (seen ▸ known) new
  · obtain ⟨known, _⟩ | ⟨_, grown⟩ := progress.offer_cases task
    · exact absurd (seen ▸ known) new
    · rw [offered, grown]
      exact ⟨queue.push task, mirrored.push task, by simp only [same]⟩

theorem record (mirrors : progress.Mirrors round) (page : Page) :
    (progress.record page).Mirrors (round.record page.body.length) := by
  obtain ⟨queue, mirrored, same⟩ := mirrors
  exact ⟨queue, mirrored, by simp only [Progress.record, Round.record, same]⟩

theorem finish (mirrors : progress.Mirrors round) :
    Mirrors { progress with round := progress.round.finish } round.finish := by
  obtain ⟨queue, mirrored, same⟩ := mirrors
  exact ⟨queue.release, mirrored.release, by simp only [Round.finish, same]⟩

theorem of_round (mirrors : progress.Mirrors round) {next : Progress}
    (same : next.round = progress.round) : next.Mirrors round := by
  rw [Progress.Mirrors, same]
  exact mirrors

theorem take (mirrors : progress.Mirrors round) {task : Task} {rest : List Task}
    (items : round.queue.items = task :: rest) (others : List (Stage Job)) (watch : Watch) :
    ∃ begun, begun.Mirrors { round with queue := { round.queue with items := rest } } ∧
      begun.ends = progress.ends ∧ begun.fetched = progress.fetched ∧
      Crew.Reaches (trade fetch) ⟨progress, .idle :: others, watch⟩
        ⟨begun, .busy (.fetch task) :: others, watch⟩ := by
  obtain ⟨queue, mirrored, same⟩ := mirrors
  have first : ((trade fetch).queue progress).items = task :: rest := by
    simp only [trade, same, mirrored.items, items]
  refine ⟨_, ⟨_, mirrored.take rest, ?_⟩, ?_, ?_,
    Crew.reaches_first others watch (Trade.turn_idle first)⟩
  · simp [trade, same]
  · rfl
  · rfl

theorem offerChildren (fetch : String → Outcome) (mirrors : progress.Mirrors round) (task : Task)
    (page : Page) (index : Nat) (rest : List String) (others : List (Stage Job)) (watch : Watch) :
    ∃ last after, last.Mirrors (round.offerChildren task index rest) ∧ last.ends = progress.ends ∧
      last.fetched = progress.fetched ∧
      Crew.Reaches (trade fetch) ⟨progress, .busy (.offer task page index rest) :: others, watch⟩
        ⟨last, .busy (.offer task page after []) :: others, watch⟩ := by
  induction rest generalizing progress round index with
  | nil => exact ⟨progress, index, mirrors, rfl, rfl, .refl _⟩
  | cons url rest ih =>
    obtain ⟨last, after, mirrored, ends, fetched, reached⟩ :=
      ih (mirrors.offer (task.child index url)) (index + 1)
    have offered : (trade fetch).turn progress (.busy (.offer task page index (url :: rest))) =
      some (progress.offer (task.child index url), .busy (.offer task page (index + 1) rest)) := rfl
    exact ⟨last, after, mirrored, ends, fetched, (Crew.reaches_first others watch offered).trans reached⟩

theorem process (fetch : String → Outcome) (mirrors : progress.Mirrors round) (task : Task)
    (others : List (Stage Job)) (watch : Watch) :
    ∃ last, last.Mirrors (round.process task (fetch task.url)).1 ∧
      last.ends = progress.ends ++ [(round.process task (fetch task.url)).2] ∧
      last.fetched = progress.fetched ++ [task.url] ∧
      Crew.Reaches (trade fetch) ⟨progress, .busy (.fetch task) :: others, watch⟩
        ⟨last, .finishing :: others, watch⟩ := by
  have asked : (trade fetch).turn progress (.busy (.fetch task)) =
    some (progress.fetchOf task.url, .busy (.ofOutcome task (fetch task.url))) := rfl
  have concluded (now : Progress) (taskEnd : TaskEnd) :
    (trade fetch).turn now (.busy (.conclude taskEnd)) =
      some (now.conclude taskEnd, .finishing) := rfl
  have asking := Crew.reaches_first others watch asked
  cases found : fetch task.url with
  | failed failure =>
    rw [found] at asking
    exact ⟨(progress.fetchOf task.url).conclude (.dropped task failure), mirrors.of_round rfl, rfl,
      rfl, asking.trans (Crew.reaches_first others watch (concluded _ _))⟩
  | crashed crash =>
    rw [found] at asking
    exact ⟨(progress.fetchOf task.url).conclude (.crashed task crash), mirrors.of_round rfl, rfl,
      rfl, asking.trans (Crew.reaches_first others watch (concluded _ _))⟩
  | page page =>
    rw [found] at asking
    have fetching : (progress.fetchOf task.url).Mirrors round := mirrors.of_round rfl
    obtain ⟨offered, after, mirrored, ends, fetched, offering⟩ :=
      fetching.offerChildren fetch task page 0 page.links others watch
    have recorded : (trade fetch).turn offered (.busy (.offer task page after [])) =
      some (offered.record page, .busy (.conclude (.reported (TaskReport.ofPage task page)))) := rfl
    have recording := Crew.reaches_first others watch recorded
    refine ⟨(offered.record page).conclude (.reported (TaskReport.ofPage task page)),
      (mirrored.record page).of_round rfl, ?_, fetched, asking.trans (offering.trans (recording.trans
        (Crew.reaches_first others watch (concluded _ _))))⟩
    exact congrArg (· ++ [_]) ends

theorem drain (mirrors : progress.Mirrors round) (limit : Nat) (others : List (Stage Job))
    (watch : Watch) (sound : Crew.Sound (trade fetch) ⟨progress, .idle :: others, watch⟩) :
    ∃ last, last.Mirrors (round.drain fetch limit).1 ∧
      last.ends = progress.ends ++ (round.drain fetch limit).2 ∧
      last.fetched = progress.fetched ++ (round.drain fetch limit).2.map (·.task.url) ∧
      Crew.Reaches (trade fetch) ⟨progress, .idle :: others, watch⟩
        ⟨last, .idle :: others, watch⟩ := by
  induction limit generalizing progress round with
  | zero => exact ⟨progress, mirrors, by simp [Round.drain], by simp [Round.drain], .refl _⟩
  | succ limit ih =>
    cases items : round.queue.items with
    | nil =>
      have empty : round.queue.take? = none := by simp [Queue.take?, items]
      simp only [Round.drain, empty]
      exact ⟨progress, mirrors, by simp, by simp, .refl _⟩
    | cons task rest =>
      have first : round.queue.take? = some (task, { round.queue with items := rest }) := by
        simp [Queue.take?, items]
      simp only [Round.drain, first]
      obtain ⟨begun, started, ends, fetched, taking⟩ := mirrors.take items others watch
      obtain ⟨worked, working, ended, asked, doing⟩ :=
        started.process fetch task others watch
      have busy := ((taking.trans doing).sound sound).busy List.mem_cons_self rfl
      have finishing := Crew.reaches_first others watch (Trade.turn_finishing busy)
      have toNext := taking.trans (doing.trans finishing)
      obtain ⟨last, mirrored, ended', asked', draining⟩ := ih working.finish (toNext.sound sound)
      refine ⟨last, mirrored, ?_, ?_, toNext.trans draining⟩
      · rw [ended', ended, ends, List.append_assoc, List.singleton_append]
      · rw [asked', asked, fetched, List.append_assoc, List.singleton_append, List.map_cons,
          Round.process_task]

end Progress.Mirrors

end PageLoad.Crawl

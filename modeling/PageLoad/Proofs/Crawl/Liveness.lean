import PageLoad.Proofs.Crawl.Exact
import PageLoad.Proofs.Work.Taken
import Mathlib.Data.Set.Card

/-!
A round never gets stuck: as long as it has work left, one of its workers can go on with it, and
there is no more work than URLs that the seed leads to. Once there is none left, everyone who waits
leaves.
-/

namespace PageLoad.Crawl
open Work Fetch

variable {fetch : String → Outcome} {seedUrl : String}

theorem Covers.mem_of_reaches {urls : List String} (covers : Covers fetch seedUrl urls) {url : String}
    (reached : Reaches fetch seedUrl url) : url ∈ urls := by
  induction reached with
  | refl => exact covers.seed
  | @tail source target _ link _ =>
    obtain ⟨page, found, listed⟩ := links_iff.mp link
    exact covers.links source (by rw [found]; exact listed)

theorem Covers.finite {urls : List String} (covers : Covers fetch seedUrl urls) :
    {url | Reaches fetch seedUrl url}.Finite :=
  urls.finite_toSet.subset fun _ reached => covers.mem_of_reaches reached

theorem accepted_logs (fetch : String → Outcome) : (trade fetch).Logs (·.accepted) where
  keep _ _ := rfl
  act progress job := by
    cases job with
    | fetch task => exact ⟨[], rfl, (List.append_nil _).symm⟩
    | offer task page index rest =>
      cases rest with
      | nil => exact ⟨[], rfl, (List.append_nil _).symm⟩
      | cons url rest =>
        simp only [trade, Progress.act]
        obtain ⟨_, same⟩ | ⟨_, offered⟩ := progress.offer_cases (task.child index url)
        · exact ⟨[], by rw [same]; rfl, by rw [same, List.append_nil]⟩
        · exact ⟨[task.child index url], by rw [offered]; rfl, by rw [offered]⟩
    | conclude taskEnd => exact ⟨[], rfl, (List.append_nil _).symm⟩

/-- The tasks that workers have taken come first among those that have been accepted. -/
theorem accepted_eq_taken {rank : String} {workers : Nat} {schedule : List Actor}
    {now : Crew Progress Job}
    (ran : (crew rank seedUrl workers).run? (trade fetch) schedule = some now) :
    now.state.accepted =
      (crew rank seedUrl workers).taken (trade fetch) schedule ++ now.state.round.queue.items := by
  have start : (crew rank seedUrl workers).state.accepted =
      [] ++ ((trade fetch).queue (crew rank seedUrl workers).state).items := rfl
  exact Crew.run_taken (accepted_logs fetch) ran start

theorem taken_length_le {rank : String} {workers : Nat} {schedule : List Actor}
    {now : Crew Progress Job}
    (ran : (crew rank seedUrl workers).run? (trade fetch) schedule = some now)
    (finite : {url | Reaches fetch seedUrl url}.Finite) :
    ((crew rank seedUrl workers).taken (trade fetch) schedule).length ≤
      {url | Reaches fetch seedUrl url}.ncard := by
  have rooted := reached_rooted ⟨schedule, ran⟩
  have accepted := accepted_eq_taken ran
  have distinct := rooted.accounted.distinct
  rw [accepted, List.map_append, List.nodup_append] at distinct
  have reached : ((((crew rank seedUrl workers).taken (trade fetch) schedule).map (·.url)).toFinset :
      Set String) ⊆ {url | Reaches fetch seedUrl url} := by
    intro url member
    obtain ⟨task, present, rfl⟩ := List.mem_map.mp (List.mem_toFinset.mp member)
    exact rooted.reaches (accepted ▸ List.mem_append_left _ present)
  have few := Set.ncard_le_ncard reached finite
  rw [Set.ncard_coe_finset, List.toFinset_card_of_nodup distinct.1, List.length_map] at few
  exact few

/-- As long as a round has work outstanding, one of its workers is awake and can be given a turn. The
workers take no more tasks than there are URLs that the seed leads to. Once no work is outstanding and
the queue is closed, every worker that waits has been given notice, and leaves when it asks again. -/
theorem never_stuck (site : Site) (rank seedUrl : String) {workers : Nat} (staffed : 0 < workers)
    {schedule : List Actor} {now : Crew Progress Job}
    (ran : (crew rank seedUrl workers).run? (trade site.fetch) schedule = some now) :
    (now.state.round.queue.outstanding ≠ 0 →
      ∃ place stage, now.stages[place]? = some stage ∧ stage.IsAwake now.state.round.queue ∧
        (now.step? (trade site.fetch) (.worker place)).isSome = true) ∧
    ((crew rank seedUrl workers).taken (trade site.fetch) schedule).length ≤
      {url | Reaches site.fetch seedUrl url}.ncard ∧
    (now.state.round.queue.outstanding = 0 → now.state.round.queue.closed = true →
      ∀ place ticket, now.stages[place]? = some (.waiting ticket) →
        now.state.round.queue.isCalled ticket = true ∧
        (now.state.round.queue.resumePop ticket).2 = .closed ∧
        ∃ next, now.step? (trade site.fetch) (.worker place) = some next ∧
          next.stages[place]? = some .gone) := by
  have sound := Crew.run_sound (crew_sound site.fetch rank seedUrl workers) ran
  have staff : now.stages ≠ [] := Crew.run?_staffed ran (Crew.start_staffed _ (Nat.ne_of_gt staffed))
  refine ⟨?_, ?_, ?_⟩
  · intro busy
    exact sound.exists_awake staff busy
  · exact taken_length_le ran (Site.covers site seedUrl).finite
  · intro _ closed place ticket found
    have waiting : .waiting ticket ∈ now.stages := List.mem_of_getElem? found
    have leaves := sound.turn_of_closed closed waiting
    refine ⟨sound.isCalled_of_closed closed waiting, sound.resumePop_of_closed closed waiting, ?_⟩
    refine ⟨_, by simp only [Crew.step?, found, Option.bind_eq_bind, Option.bind_some, leaves]; rfl, ?_⟩
    exact List.getElem?_set_self (List.getElem?_eq_some_iff.mp found).1

theorem waiting_of_tickets {stages : List (Stage Job)} {tickets : List (Option Nat)} {place ticket : Nat}
    (same : stages.map (·.ticket?) = tickets) (held : tickets[place]? = some (some ticket)) :
    stages[place]? = some (.waiting ticket) := by
  rw [← same, List.getElem?_map, Option.map_eq_some_iff] at held
  obtain ⟨stage, found, waits⟩ := held
  cases stage with
  | waiting other =>
    cases waits
    exact found
  | idle => cases waits
  | busy job => cases waits
  | finishing => cases waits
  | gone => cases waits

/-- One of two workers finds that the seed does not exist. Until then the other waits. -/
theorem never_stuck_missing_seed : ∃ now last,
    (crew "1" "a://b" 2).run? (trade (Site.fetch [])) [.worker 0, .worker 1] = some now ∧
    now.stages[1]? = some (.waiting 0) ∧ now.state.round.queue.isCalled 0 = false ∧
    (∃ place stage, now.stages[place]? = some stage ∧ stage.IsAwake now.state.round.queue ∧
      (now.step? (trade (Site.fetch [])) (.worker place)).isSome = true) ∧
    (crew "1" "a://b" 2).run? (trade (Site.fetch []))
      [.worker 0, .worker 1, .worker 0, .worker 0, .worker 0, .overseer, .overseer] = some last ∧
    last.stages[1]? = some (.waiting 0) ∧ last.state.round.queue.isCalled 0 = true ∧
    (last.state.round.queue.resumePop 0).2 = .closed := by
  have early : ((crew "1" "a://b" 2).run? (trade (Site.fetch [])) [.worker 0, .worker 1]).map
      (fun now => (now.state.round.queue.outstanding, now.state.round.queue.isCalled 0,
        now.stages.map (·.ticket?))) = some (1, false, [none, some 0]) := by decide +kernel
  have late : ((crew "1" "a://b" 2).run? (trade (Site.fetch []))
      [.worker 0, .worker 1, .worker 0, .worker 0, .worker 0, .overseer, .overseer]).map
      (fun last => (last.state.round.queue.outstanding, last.state.round.queue.closed,
        last.stages.map (·.ticket?))) = some (0, true, [none, some 0]) := by decide +kernel
  obtain ⟨now, ran, seen⟩ := Option.map_eq_some_iff.mp early
  obtain ⟨last, ranOn, ended⟩ := Option.map_eq_some_iff.mp late
  simp only [Prod.mk.injEq] at seen ended
  obtain ⟨outstanding, uncalled, waits⟩ := seen
  obtain ⟨idle, closed, stays⟩ := ended
  have waiting : last.stages[1]? = some (.waiting 0) := waiting_of_tickets stays rfl
  have ⟨awake, _, _⟩ := never_stuck [] "1" "a://b" (by decide) ran
  have ⟨_, _, leaving⟩ := never_stuck [] "1" "a://b" (by decide) ranOn
  have ⟨called, told, _⟩ := leaving idle closed 1 0 waiting
  exact ⟨now, last, ran, waiting_of_tickets waits rfl, uncalled, awake (by omega), ranOn, waiting,
    called, told⟩

end PageLoad.Crawl

import PageLoad.Proofs.Work.Crew
import Mathlib.Algebra.Ring.Nat

/-!
A crew comes to an end. As long as the overseer is not through someone has a turn, because a
consumer that has been given notice stands for every item that nobody is about to take; and if
the actions of a trade use up a budget, there are only so many turns.
-/

namespace PageLoad.Work

variable {State Item Job : Type} {trade : Trade State Item Job}

/-- A worker is awake if it holds an item, is about to ask for one, or waits and has been given
notice. -/
def Stage.IsAwake (queue : Queue Item) (stage : Stage Job) : Prop :=
  stage.isHolding = true ∨ stage = .idle ∨ ∃ ticket, stage = .waiting ticket ∧ queue.isCalled ticket = true

namespace Crew

theorem step?_of_turn {crew : Crew State Job} {stage : Stage Job} (member : stage ∈ crew.stages)
    (turn : (trade.turn crew.state stage).isSome = true) :
    ∃ place, crew.stages[place]? = some stage ∧
      (crew.step? trade (.worker place)).isSome = true := by
  obtain ⟨place, inside, rfl⟩ := List.mem_iff_getElem.mp member
  obtain ⟨⟨state, next⟩, turned⟩ := Option.isSome_iff_exists.mp turn
  have found : crew.stages[place]? = some crew.stages[place] := List.getElem?_eq_getElem inside
  exact ⟨place, found, by simp [step?, found, turned]⟩

/-- As long as work is outstanding, one of the workers has a turn. -/
theorem exists_turn {crew : Crew State Job} (sound : crew.Sound trade) (staffed : crew.stages ≠ [])
    (going : crew.watch ≠ .through) (busy : (trade.queue crew.state).outstanding ≠ 0) :
    ∃ stage ∈ crew.stages, (trade.turn crew.state stage).isSome = true := by
  by_contra! stuck
  -- Nobody holds an item or is about to ask for one, so all of them wait.
  have waiting : ∀ stage ∈ crew.stages, ∃ ticket, stage = .waiting ticket := by
    intro stage member
    have still := stuck stage member
    cases stage with
    | idle => exact absurd rfl still
    | waiting ticket => exact ⟨ticket, rfl⟩
    | busy job => exact absurd rfl still
    | finishing => simp [Trade.turn, Queue.markDone?, busy] at still
    | gone => exact absurd (sound.gone member) going
  have asleep : ∀ consumer ∈ (trade.queue crew.state).consumers, consumer.notice = none := by
    intro consumer member
    by_contra notified
    have placed := sound.tickets.symm.subset (List.mem_map_of_mem (f := (·.ticket)) member)
    obtain ⟨stage, present, same⟩ := List.mem_filterMap.mp placed
    obtain ⟨ticket, rfl⟩ := waiting stage present
    cases same
    have still := stuck _ present
    simp [Trade.turn, Queue.isCalled_of_mem sound.queue member notified] at still
  have someone : (trade.queue crew.state).consumers ≠ [] := by
    obtain ⟨stage, member⟩ := List.exists_mem_of_ne_nil _ staffed
    obtain ⟨ticket, rfl⟩ := waiting stage member
    have placed := sound.tickets.subset (List.mem_filterMap.mpr ⟨_, member, rfl⟩)
    intro empty
    simp [empty] at placed
  have empty := Queue.items_eq_nil_of_asleep sound.queue someone asleep
  have free : crew.stages.countP (·.isHolding) = 0 := by
    apply List.countP_eq_zero.mpr
    intro stage member
    obtain ⟨ticket, rfl⟩ := waiting stage member
    exact Bool.false_ne_true
  have counted := sound.outstanding
  rw [empty, free] at counted
  exact busy counted

theorem exists_step {crew : Crew State Job} (sound : crew.Sound trade) (staffed : crew.stages ≠ [])
    (going : crew.watch ≠ .through) : ∃ actor, (crew.step? trade actor).isSome = true := by
  have overseen : ∀ queue watch, crew.watch.turn (trade.queue crew.state) = some (queue, watch) →
      ∃ actor, (crew.step? trade actor).isSome = true :=
    fun queue watch turned => ⟨.overseer, by simp [step?, turned]⟩
  cases watching : crew.watch with
  | joining => exact overseen _ _ (by rw [watching, Watch.turn])
  | closing => exact overseen _ _ (by rw [watching, Watch.turn])
  | through => exact absurd watching going
  | waiting ticket =>
    have waited := sound.joiners
    rw [watching] at waited
    obtain ⟨joiner, only, same⟩ := List.map_eq_singleton_iff.mp waited
    cases notified : joiner.notified with
    | true =>
      apply overseen _ _
      rw [watching, Watch.turn, Queue.isReleased, Queue.joiner?, only, if_pos]
      simp [same, notified]
    | false =>
      have busy := sound.queue.unfinished joiner (only ▸ List.mem_singleton_self _) notified
      obtain ⟨stage, member, turn⟩ := exists_turn sound staffed going busy
      obtain ⟨place, _, stepped⟩ := step?_of_turn member turn
      exact ⟨.worker place, stepped⟩

theorem Sound.exists_awake {crew : Crew State Job} (sound : crew.Sound trade)
    (staffed : crew.stages ≠ []) (busy : (trade.queue crew.state).outstanding ≠ 0) :
    ∃ place stage, crew.stages[place]? = some stage ∧ stage.IsAwake (trade.queue crew.state) ∧
      (crew.step? trade (.worker place)).isSome = true := by
  have going : crew.watch ≠ .through := fun through =>
    busy (sound.released (by rw [through]; rfl))
  obtain ⟨stage, member, turn⟩ := exists_turn sound staffed going busy
  obtain ⟨place, found, stepped⟩ := step?_of_turn member turn
  refine ⟨place, stage, found, ?_, stepped⟩
  cases stage with
  | idle => exact .inr (.inl rfl)
  | waiting ticket =>
    refine .inr (.inr ⟨ticket, rfl, ?_⟩)
    by_contra uncalled
    simp [Trade.turn, uncalled] at turn
  | busy job => exact .inl rfl
  | finishing => exact .inl rfl
  | gone => exact absurd (sound.gone member) going

theorem Sound.isCalled_of_closed {crew : Crew State Job} (sound : crew.Sound trade)
    (closed : (trade.queue crew.state).closed = true) {ticket : Nat}
    (waiting : .waiting ticket ∈ crew.stages) : (trade.queue crew.state).isCalled ticket = true := by
  have placed : ticket ∈ crew.stages.filterMap (·.ticket?) :=
    List.mem_filterMap.mpr ⟨.waiting ticket, waiting, rfl⟩
  obtain ⟨consumer, member, rfl⟩ := List.mem_map.mp (sound.tickets.subset placed)
  refine Queue.isCalled_of_mem sound.queue member fun asleep => ?_
  have ⟨opened, _, _⟩ := sound.queue.awake consumer member asleep
  rw [opened] at closed
  cases closed

theorem Sound.resumePop_of_closed {crew : Crew State Job} (sound : crew.Sound trade)
    (closed : (trade.queue crew.state).closed = true) {ticket : Nat}
    (waiting : .waiting ticket ∈ crew.stages) :
    ((trade.queue crew.state).resumePop ticket).2 = .closed := by
  have released : crew.watch.isReleased = true := by rw [sound.closed.mp closed]; rfl
  have empty := (sound.quiet (sound.released released)).1
  obtain ⟨_, _, _, resumed⟩ := Queue.resumePop_of_isCalled (sound.isCalled_of_closed closed waiting)
  rw [resumed]
  obtain ⟨_, _, found, _⟩ | ⟨_, _, taken⟩ | ⟨_, opened, _⟩ :=
    ((trade.queue crew.state).removeConsumer ticket).pop_cases
  · exact absurd (empty.symm.trans found) (by simp)
  · rw [taken]
  · exact absurd (closed.symm.trans opened) (by simp)

theorem Sound.turn_of_closed {crew : Crew State Job} (sound : crew.Sound trade)
    (closed : (trade.queue crew.state).closed = true) {ticket : Nat}
    (waiting : .waiting ticket ∈ crew.stages) :
    trade.turn crew.state (.waiting ticket) =
      some (trade.withQueue crew.state ((trade.queue crew.state).resumePop ticket).1, .gone) := by
  rw [Trade.turn, if_pos (sound.isCalled_of_closed closed waiting), Trade.asked,
    sound.resumePop_of_closed closed waiting, Trade.stageOf]

theorem Sound.turn_of_through {crew : Crew State Job} (sound : crew.Sound trade)
    (through : crew.watch = .through) {stage : Stage Job} (member : stage ∈ crew.stages) :
    stage = .gone ∨ (trade.turn crew.state stage).isSome = true := by
  have done : (trade.queue crew.state).outstanding = 0 := sound.released (by rw [through]; rfl)
  have free := (sound.quiet done).2 stage member
  cases stage with
  | idle => exact .inr rfl
  | waiting ticket =>
    rw [sound.turn_of_closed (sound.closed.mpr through) member]
    exact .inr rfl
  | busy job => cases free
  | finishing => cases free
  | gone => exact .inl rfl

/-- Where nobody has a turn, the overseer is through and all workers are gone. -/
theorem gone_of_still {crew : Crew State Job} (sound : crew.Sound trade) (staffed : crew.stages ≠ [])
    (still : ∀ actor, crew.step? trade actor = none) :
    crew.watch = .through ∧ ∀ stage ∈ crew.stages, stage = .gone := by
  have through : crew.watch = .through := by
    by_contra going
    obtain ⟨actor, turn⟩ := exists_step sound staffed going
    simp [still actor] at turn
  refine ⟨through, fun stage member => ?_⟩
  obtain gone | turned := sound.turn_of_through through member
  · exact gone
  · obtain ⟨place, _, turn⟩ := step?_of_turn member turned
    simp [still (.worker place)] at turn

end Crew

/-! How many turns there can be. An item is worth the turns that its job takes, and a notice
those of the one who has been given it. -/

namespace Queue

variable {α : Type}

/-- The turns that what is queued and what has been notified lead to. -/
def load (cost : α → Nat) (queue : Queue α) : Nat :=
  (queue.items.map (cost · + 10)).sum + 2 * queue.consumers.countP (·.notice.isSome) +
    2 * queue.joiners.countP (·.notified)

theorem push_load_le (cost : α → Nat) (queue : Queue α) (item : α) :
    (queue.push item).load cost ≤ queue.load cost + (cost item + 12) := by
  have notices : (queue.push item).consumers.countP (·.notice.isSome) ≤
      queue.consumers.countP (·.notice.isSome) + 1 := by
    simp only [push, notifyOne]
    split
    next consumers found =>
      obtain ⟨before, ticket, after, same, rfl⟩ := notifyFirst_eq_some found
      have same : queue.consumers = before ++ ⟨ticket, none⟩ :: after := same
      simp only [same, List.countP_append, List.countP_cons, Option.isSome_some, Option.isSome_none]
      simp
      omega
    next => exact Nat.le_succ _
  simp only [load, push_items, push_joiners, List.map_append, List.sum_append, List.map_cons,
    List.map_nil, List.sum_cons, List.sum_nil]
  omega

theorem pushAll_load_le (cost : α → Nat) (queue : Queue α) (items : List α) :
    (queue.pushAll items).load cost ≤ queue.load cost + (items.map (cost · + 12)).sum := by
  induction items generalizing queue with
  | nil => simp
  | cons item items ih =>
    have first := push_load_le cost queue item
    have rest := ih (queue.push item)
    simp only [pushAll_cons, List.map_cons, List.sum_cons]
    omega

theorem removeConsumer_load (cost : α → Nat) {slack : Nat} {queue : Queue α}
    (sound : queue.Sound slack) {ticket : Nat} {consumer : Consumer}
    (found : queue.consumer? ticket = some consumer) (notified : consumer.notice ≠ none) :
    (queue.removeConsumer ticket).load cost + 2 = queue.load cost := by
  obtain ⟨before, after, split, _, left⟩ := removeConsumer_split sound found
  have present : consumer.notice.isSome = true := by simpa [Option.isSome_iff_ne_none] using notified
  have counted : (consumer :: after).countP (·.notice.isSome) =
      after.countP (·.notice.isSome) + 1 := List.countP_cons_of_pos present
  rw [load, load, split, left, List.countP_append, List.countP_append, counted]
  simp only [removeConsumer]
  omega

theorem release_load_le (cost : α → Nat) (queue : Queue α) :
    queue.release.load cost ≤ queue.load cost + 2 * queue.joiners.length := by
  have few : queue.release.joiners.countP (·.notified) ≤ queue.joiners.length := by
    have bound := List.countP_le_length (p := (·.notified)) (l := queue.release.joiners)
    simpa [release] using bound
  simp only [load]
  simp only [release] at few ⊢
  omega

@[simp] theorem join_load (cost : α → Nat) (queue : Queue α) :
    queue.join.1.load cost = queue.load cost := by
  obtain ⟨_, joined⟩ | ⟨_, joined⟩ := queue.join_cases <;> simp [joined, load]

theorem abandonJoin_load (cost : α → Nat) {queue : Queue α} {ticket : Nat}
    (only : queue.joiners.map (·.ticket) = [ticket]) (released : queue.isReleased ticket = true) :
    (queue.abandonJoin ticket).load cost + 2 = queue.load cost := by
  obtain ⟨joiner, alone, same⟩ := List.map_eq_singleton_iff.mp only
  have notified : joiner.notified = true := by
    simpa [isReleased, joiner?, alone, same] using released
  simp [load, abandonJoin, alone, same, notified]

theorem close_load_le (cost : α → Nat) (queue : Queue α) :
    queue.close.load cost ≤ queue.load cost + 2 * queue.consumers.length := by
  have few : queue.close.consumers.countP (·.notice.isSome) ≤ queue.consumers.length := by
    have bound := List.countP_le_length (p := (·.notice.isSome)) (l := queue.close.consumers)
    simpa [close] using bound
  simp only [load]
  simp only [close] at few ⊢
  omega

theorem consumers_length_le {queue : Queue α} {tickets : List Nat} {count : Nat}
    (placed : tickets.Perm (queue.consumers.map (·.ticket))) (few : tickets.length ≤ count) :
    queue.consumers.length ≤ count := by
  have same := placed.length_eq
  rw [List.length_map] at same
  omega

end Queue

def Stage.rank (cost : Job → Nat) : Stage Job → Nat
  | .idle => 2
  | .waiting _ => 1
  | .busy job => cost job + 6
  | .finishing => 5
  | .gone => 0

def Watch.rank (workers : Nat) : Watch → Nat
  | .joining => 2 * workers + 3
  | .waiting _ => 2 * workers + 2
  | .closing => 2 * workers + 1
  | .through => 0

/-- The actions of a trade use up a budget. What a job costs is spent turn by turn, and an item
is paid for when it is queued. -/
structure Trade.Spends (trade : Trade State Item Job) (Holds : State → Multiset Job → Prop)
    (cost : Job → Nat) (budget : State → Nat) : Prop where
  keep (state : State) (queue : Queue Item) : budget (trade.withQueue state queue) = budget state
  act {state : State} {job : Job} {jobs : Multiset Job} : Holds state (job ::ₘ jobs) →
    ∃ items, trade.queue (trade.act state job).1 = (trade.queue state).pushAll items ∧
      budget (trade.act state job).1 + (items.map fun item => cost (trade.jobOf item) + 12).sum +
        (trade.act state job).2.elim 0 (cost · + 1) ≤ budget state + cost job

namespace Crew

def rank (trade : Trade State Item Job) (cost : Job → Nat) (budget : State → Nat)
    (crew : Crew State Job) : Nat :=
  budget crew.state + (trade.queue crew.state).load (cost <| trade.jobOf ·) +
    (crew.stages.map (·.rank cost)).sum + crew.watch.rank crew.stages.length

variable {Holds : State → Multiset Job → Prop} {cost : Job → Nat} {budget : State → Nat}

private theorem ask_rank_lt (spends : trade.Spends Holds cost budget) (state : State)
    (queue : Queue Item) :
    budget (trade.asked state queue.pop).1 +
        (trade.queue (trade.asked state queue.pop).1).load (cost <| trade.jobOf ·) +
        (trade.asked state queue.pop).2.rank cost <
      budget state + queue.load (cost <| trade.jobOf ·) + 2 := by
  simp only [Trade.asked, spends.keep, trade.queue_withQueue]
  obtain ⟨item, rest, found, taken⟩ | ⟨_, _, taken⟩ | ⟨_, _, taken⟩ := queue.pop_cases
  · simp only [taken, Trade.stageOf, Stage.rank, Queue.load, found, List.map_cons, List.sum_cons]
    omega
  · simp only [taken, Trade.stageOf, Stage.rank, Queue.load]
    omega
  · simp only [taken, Trade.stageOf, Stage.rank, Queue.load, List.countP_append]
    simp

private theorem turn_rank_lt (spends : trade.Spends Holds cost budget) {crew : Crew State Job}
    (sound : crew.Sound trade) {stage after : Stage Job} (member : stage ∈ crew.stages)
    {rest : Multiset Job} (holds : Holds crew.state (stage.job?.elim rest (· ::ₘ rest)))
    {next : State} (turned : trade.turn crew.state stage = some (next, after)) :
    budget next + (trade.queue next).load (cost <| trade.jobOf ·) + after.rank cost <
      budget crew.state + (trade.queue crew.state).load (cost <| trade.jobOf ·) +
        stage.rank cost := by
  obtain ⟨rfl, asked⟩ | ⟨ticket, rfl, called, asked⟩ | ⟨job, rfl, rfl, rfl⟩ |
    ⟨rfl, busy, rfl, rfl⟩ := Trade.turn_cases turned
  · obtain ⟨rfl, rfl⟩ := Prod.mk.inj asked
    exact ask_rank_lt spends crew.state (trade.queue crew.state)
  · obtain ⟨rfl, rfl⟩ := Prod.mk.inj asked
    obtain ⟨consumer, found, notified, resumed⟩ := Queue.resumePop_of_isCalled called
    have left := Queue.removeConsumer_load (cost <| trade.jobOf ·) sound.queue found notified
    have spent := ask_rank_lt spends crew.state ((trade.queue crew.state).removeConsumer ticket)
    rw [resumed]
    refine Nat.lt_trans spent ?_
    simp only [Stage.rank]
    omega
  · obtain ⟨items, pushed, paid⟩ := spends.act holds
    have loaded := Queue.pushAll_load_le (cost <| trade.jobOf ·) (trade.queue crew.state) items
    rw [pushed]
    cases left : (trade.act crew.state job).2 with
    | none =>
      simp only [left, Option.elim, Stage.rank] at paid ⊢
      omega
    | some job =>
      simp only [left, Option.elim, Stage.rank] at paid ⊢
      omega
  · have loaded := Queue.release_load_le (cost <| trade.jobOf ·) (trade.queue crew.state)
    have alone := congrArg List.length sound.joiners
    have few : crew.watch.ticket?.toList.length ≤ 1 := by cases crew.watch <;> simp [Watch.ticket?]
    rw [List.length_map] at alone
    rw [spends.keep, trade.queue_withQueue]
    simp only [Stage.rank]
    omega

private theorem watch_rank_lt (cost : Job → Nat) {crew : Crew State Job} (sound : crew.Sound trade)
    {queue : Queue Item} {watch : Watch}
    (turned : crew.watch.turn (trade.queue crew.state) = some (queue, watch)) :
    queue.load (cost <| trade.jobOf ·) + watch.rank crew.stages.length <
      (trade.queue crew.state).load (cost <| trade.jobOf ·) +
        crew.watch.rank crew.stages.length := by
  have waited := sound.joiners
  cases watching : crew.watch with
  | joining =>
    simp only [watching, Watch.turn, Option.some.injEq, Prod.mk.injEq] at turned
    obtain ⟨rfl, rfl⟩ := turned
    rw [Queue.join_load]
    obtain ⟨_, joined⟩ | ⟨_, joined⟩ := (trade.queue crew.state).join_cases <;>
      simp [joined, Watch.ofJoined, Watch.rank]
  | waiting ticket =>
    simp only [watching, Watch.turn] at turned
    split at turned
    next released =>
      simp only [Option.some.injEq, Prod.mk.injEq, Queue.resumeJoin_of_isReleased released] at turned
      obtain ⟨rfl, rfl⟩ := turned
      rw [watching] at waited
      have left := Queue.abandonJoin_load (cost <| trade.jobOf ·) waited released
      rw [Queue.join_load]
      obtain ⟨_, joined⟩ | ⟨_, joined⟩ :=
        ((trade.queue crew.state).abandonJoin ticket).join_cases <;>
        simp only [joined, Watch.ofJoined, Watch.rank] <;> omega
    next => cases turned
  | closing =>
    simp only [watching, Watch.turn, Option.some.injEq, Prod.mk.injEq] at turned
    obtain ⟨rfl, rfl⟩ := turned
    have closed := Queue.close_load_le (cost <| trade.jobOf ·) (trade.queue crew.state)
    have few := Queue.consumers_length_le sound.tickets (List.length_filterMap_le _ crew.stages)
    simp only [Watch.rank]
    omega
  | through => simp [watching, Watch.turn] at turned

theorem step_rank_lt (spends : trade.Spends Holds cost budget) {crew next : Crew State Job}
    {actor : Actor} (sound : crew.Sound trade) (holds : Holds crew.state crew.jobs)
    (stepped : crew.step? trade actor = some next) :
    next.rank trade cost budget < crew.rank trade cost budget := by
  have staff : next.stages.length = crew.stages.length := step?_length stepped
  rw [rank, rank, staff]
  cases actor with
  | overseer =>
    obtain ⟨queue, turned, state, stages⟩ := step?_overseer stepped
    rw [state, trade.queue_withQueue, spends.keep, stages]
    have spent := watch_rank_lt cost sound turned
    omega
  | worker place =>
    obtain ⟨before, stage, after, stage', split, turned, stages, watch⟩ := step?_worker stepped
    have spent : budget next.state + (trade.queue next.state).load (cost <| trade.jobOf ·) +
        stage'.rank cost <
      budget crew.state + (trade.queue crew.state).load (cost <| trade.jobOf ·) +
        stage.rank cost := by
      rw [jobs_split split] at holds
      exact turn_rank_lt spends sound (split ▸ by simp) holds turned
    simp only [watch, split, stages, List.map_append, List.sum_append, List.map_cons, List.sum_cons]
    omega

theorem run_length_le (keeps : trade.Keeps Holds) (spends : trade.Spends Holds cost budget)
    {crew last : Crew State Job} {schedule : List Actor} (sound : crew.Sound trade)
    (holds : Holds crew.state crew.jobs) (ran : crew.run? trade schedule = some last) :
    schedule.length ≤ crew.rank trade cost budget := by
  induction schedule generalizing crew with
  | nil => exact Nat.zero_le _
  | cons actor schedule ih =>
    obtain ⟨next, stepped, ran⟩ := Option.bind_eq_some_iff.mp ran
    have spent := step_rank_lt spends sound holds stepped
    have rest := ih (step_sound sound stepped) (step_keeps keeps holds stepped) ran
    rw [List.length_cons]
    omega

/-- Whatever the order of their turns, the members of a crew come to an end, and then the overseer
is through. -/
structure Ends (trade : Trade State Item Job) (crew : Crew State Job) : Prop where
  bounded : ∃ bound, ∀ schedule last, crew.run? trade schedule = some last → schedule.length ≤ bound
  going : ∀ schedule last, crew.run? trade schedule = some last → last.watch ≠ .through →
    ∃ actor, (last.step? trade actor).isSome = true

theorem ends (keeps : trade.Keeps Holds) (spends : trade.Spends Holds cost budget)
    {crew : Crew State Job} (sound : crew.Sound trade) (staffed : crew.stages ≠ [])
    (holds : Holds crew.state crew.jobs) : crew.Ends trade where
  bounded := ⟨_, fun _ _ ran => run_length_le keeps spends sound holds ran⟩
  going _ _ ran := exists_step (run_sound sound ran) (run?_staffed ran staffed)

theorem Ends.exists_through {crew : Crew State Job} (ends : crew.Ends trade) :
    ∃ last, Reaches trade crew last ∧ last.watch = .through := by
  obtain ⟨bound, few⟩ := ends.bounded
  have extended (left : Nat) : ∀ schedule last, crew.run? trade schedule = some last →
      bound - schedule.length = left → ∃ last, Reaches trade crew last ∧ last.watch = .through := by
    induction left using Nat.strong_induction_on with
    | _ left ih =>
      intro schedule last ran room
      by_cases through : last.watch = .through
      · exact ⟨last, ⟨schedule, ran⟩, through⟩
      · obtain ⟨actor, stepped⟩ := ends.going schedule last ran through
        obtain ⟨next, stepped⟩ := Option.isSome_iff_exists.mp stepped
        have longer : crew.run? trade (schedule ++ [actor]) = some next := by
          simp [run?_append, ran, run?, stepped]
        have most := few _ _ longer
        refine ih _ ?_ _ _ longer rfl
        rw [List.length_append, List.length_singleton] at most ⊢
        omega
  exact extended _ [] crew rfl rfl

end Crew

end PageLoad.Work

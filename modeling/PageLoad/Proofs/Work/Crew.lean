import PageLoad.Proofs.Work.Queue
import Mathlib.Data.Multiset.ZeroCons

/-!
What holds of a crew in whatever order its members take their turns: the outstanding work is
what is queued and what the workers hold, and once there is none, nothing happens any more. A
property of the shared state and of the jobs under way needs to be checked for the taking of an
item and for one action only.
-/

namespace PageLoad.Work

namespace Queue

variable {α : Type}

@[simp] theorem pushAll_nil (queue : Queue α) : queue.pushAll [] = queue := rfl

@[simp] theorem pushAll_cons (queue : Queue α) (item : α) (items : List α) :
    queue.pushAll (item :: items) = (queue.push item).pushAll items := rfl

@[simp] theorem pushAll_items (queue : Queue α) (items : List α) :
    (queue.pushAll items).items = queue.items ++ items := by
  induction items generalizing queue with
  | nil => simp
  | cons item items ih => simp [ih]

@[simp] theorem pushAll_outstanding (queue : Queue α) (items : List α) :
    (queue.pushAll items).outstanding = queue.outstanding + items.length := by
  induction items generalizing queue with
  | nil => simp
  | cons item items ih => simp [ih, Nat.add_comm, Nat.add_left_comm]

@[simp] theorem pushAll_closed (queue : Queue α) (items : List α) :
    (queue.pushAll items).closed = queue.closed := by
  induction items generalizing queue with
  | nil => rfl
  | cons item items ih => simp [ih]

@[simp] theorem pushAll_joiners (queue : Queue α) (items : List α) :
    (queue.pushAll items).joiners = queue.joiners := by
  induction items generalizing queue with
  | nil => rfl
  | cons item items ih => simp [ih]

@[simp] theorem pushAll_tickets (queue : Queue α) (items : List α) :
    (queue.pushAll items).consumers.map (·.ticket) = queue.consumers.map (·.ticket) := by
  induction items generalizing queue with
  | nil => rfl
  | cons item items ih => simp [ih]

theorem pushAll_sound {queue : Queue α} (sound : queue.Sound 0) (items : List α) :
    (queue.pushAll items).Sound 0 := by
  induction items generalizing queue with
  | nil => exact sound
  | cons item items ih => exact ih (push_sound sound item)

end Queue

variable {State Item Job : Type} {trade : Trade State Item Job}

namespace Trade

theorem turn_cases {state next : State} {stage after : Stage Job}
    (turned : trade.turn state stage = some (next, after)) :
    (stage = .idle ∧ (next, after) = trade.asked state (trade.queue state).pop) ∨
    (∃ ticket, stage = .waiting ticket ∧ (trade.queue state).isCalled ticket = true ∧
      (next, after) = trade.asked state ((trade.queue state).resumePop ticket)) ∨
    (∃ job, stage = .busy job ∧ next = (trade.act state job).1 ∧
      after = (trade.act state job).2.elim .finishing .busy) ∨
    (stage = .finishing ∧ (trade.queue state).outstanding ≠ 0 ∧
      next = trade.withQueue state (trade.queue state).release ∧ after = .idle) := by
  cases stage with
  | idle => exact .inl ⟨rfl, (Option.some.inj turned).symm⟩
  | waiting ticket =>
    simp only [turn] at turned
    split at turned
    next called => exact .inr (.inl ⟨ticket, rfl, called, (Option.some.inj turned).symm⟩)
    next => cases turned
  | busy job =>
    cases turned
    exact .inr (.inr (.inl ⟨job, rfl, rfl, rfl⟩))
  | finishing =>
    simp only [turn, Queue.markDone?] at turned
    split at turned
    next => cases turned
    next busy =>
      cases turned
      exact .inr (.inr (.inr ⟨rfl, busy, rfl, rfl⟩))
  | gone => cases turned

theorem turn_idle {state : State} {item : Item} {rest : List Item}
    (first : (trade.queue state).items = item :: rest) :
    trade.turn state .idle =
      some (trade.withQueue state { trade.queue state with permit := false, items := rest },
        .busy (trade.jobOf item)) := by
  simp [turn, asked, Queue.pop, Queue.take?, first, stageOf]

theorem turn_finishing {state : State} (busy : (trade.queue state).outstanding ≠ 0) :
    trade.turn state .finishing =
      some (trade.withQueue state (trade.queue state).release, .idle) := by
  simp [turn, Queue.markDone?, busy]

end Trade

theorem Watch.turn_keeps {queue next : Queue Item} {watch after : Watch}
    (turned : watch.turn queue = some (next, after)) :
    next.items = queue.items ∧ next.outstanding = queue.outstanding := by
  cases watch with
  | joining =>
    cases turned
    simp
  | waiting ticket =>
    simp only [turn] at turned
    split at turned
    next released =>
      rw [Queue.resumeJoin_of_isReleased released] at turned
      cases turned
      simp [Queue.abandonJoin]
    next => cases turned
  | closing =>
    cases turned
    exact ⟨rfl, rfl⟩
  | through => cases turned

namespace Crew

theorem step?_worker {crew next : Crew State Job} {place : Nat}
    (stepped : crew.step? trade (.worker place) = some next) :
    ∃ before stage after stage', crew.stages = before ++ stage :: after ∧
      trade.turn crew.state stage = some (next.state, stage') ∧
      next.stages = before ++ stage' :: after ∧ next.watch = crew.watch := by
  simp only [step?, Option.bind_eq_bind, Option.bind_eq_some_iff] at stepped
  obtain ⟨stage, found, ⟨state, stage'⟩, turned, rebuilt⟩ := stepped
  cases rebuilt
  obtain ⟨inside, rfl⟩ := List.getElem?_eq_some_iff.mp found
  refine ⟨crew.stages.take place, _, crew.stages.drop (place + 1), stage', ?_, turned, ?_, rfl⟩
  · rw [List.getElem_cons_drop, List.take_append_drop]
  · exact List.set_eq_take_append_cons_drop.trans (if_pos inside)

theorem step?_overseer {crew next : Crew State Job}
    (stepped : crew.step? trade .overseer = some next) :
    ∃ queue, crew.watch.turn (trade.queue crew.state) = some (queue, next.watch) ∧
      next.state = trade.withQueue crew.state queue ∧ next.stages = crew.stages := by
  simp only [step?, Option.bind_eq_bind, Option.bind_eq_some_iff] at stepped
  obtain ⟨⟨queue, watch⟩, turned, rebuilt⟩ := stepped
  cases rebuilt
  exact ⟨queue, turned, rfl, rfl⟩

theorem step?_length {crew next : Crew State Job} {actor : Actor}
    (stepped : crew.step? trade actor = some next) : next.stages.length = crew.stages.length := by
  cases actor with
  | overseer =>
    obtain ⟨_, _, _, stages⟩ := step?_overseer stepped
    rw [stages]
  | worker place =>
    obtain ⟨before, stage, after, stage', split, _, stages, _⟩ := step?_worker stepped
    rw [stages, split]
    simp

theorem step?_at {crew : Crew State Job} {place : Nat} {stage : Stage Job}
    (found : crew.stages[place]? = some stage) :
    crew.step? trade (.worker place) = (trade.turn crew.state stage).map fun turned =>
      { crew with state := turned.1, stages := crew.stages.set place turned.2 } := by
  simp only [step?, found, Option.bind_eq_bind, Option.bind_some]
  cases trade.turn crew.state stage <;> rfl

theorem exists_stage {crew next : Crew State Job} {place : Nat}
    (stepped : crew.step? trade (.worker place) = some next) :
    ∃ stage, crew.stages[place]? = some stage := by
  cases staged : crew.stages[place]? with
  | none => simp [step?, staged] at stepped
  | some stage => exact ⟨stage, rfl⟩

theorem step?_of_gone {crew : Crew State Job} {place : Nat} (gone : crew.stages[place]? = some .gone) :
    crew.step? trade (.worker place) = none := by
  rw [step?_at gone]
  rfl

theorem step?_gone {crew next : Crew State Job} {place : Nat} {actor : Actor}
    (gone : crew.stages[place]? = some .gone) (stepped : crew.step? trade actor = some next) :
    next.stages[place]? = some .gone := by
  cases actor with
  | overseer =>
    obtain ⟨_, _, _, stages⟩ := step?_overseer stepped
    exact stages ▸ gone
  | worker other =>
    have elsewhere : other ≠ place := by
      rintro rfl
      rw [step?_of_gone gone] at stepped
      cases stepped
    obtain ⟨stage, staged⟩ := exists_stage stepped
    rw [step?_at staged] at stepped
    obtain ⟨_, _, rfl⟩ := Option.map_eq_some_iff.mp stepped
    exact (List.getElem?_set_ne elsewhere).trans gone

theorem run?_keeps (Kept : Crew State Job → Prop)
    (keep : ∀ crew actor next, Kept crew → crew.step? trade actor = some next → Kept next)
    {crew last : Crew State Job} {schedule : List Actor}
    (ran : crew.run? trade schedule = some last) (kept : Kept crew) : Kept last := by
  induction schedule generalizing crew with
  | nil => exact Option.some.inj ran ▸ kept
  | cons actor schedule ih =>
    obtain ⟨next, stepped, ran⟩ := Option.bind_eq_some_iff.mp ran
    exact ih ran (keep crew actor next kept stepped)

theorem run?_staffed {crew last : Crew State Job} {schedule : List Actor}
    (ran : crew.run? trade schedule = some last) (staffed : crew.stages ≠ []) : last.stages ≠ [] := by
  refine run?_keeps (·.stages ≠ []) (fun crew actor next kept stepped => ?_) ran staffed
  rw [← List.length_pos_iff, step?_length stepped, List.length_pos_iff]
  exact kept

theorem start_staffed (state : State) {workers : Nat} (staffed : workers ≠ 0) :
    (start state workers : Crew State Job).stages ≠ [] :=
  mt (List.replicate_eq_nil_iff _).mp staffed

def Reaches (trade : Trade State Item Job) (crew last : Crew State Job) : Prop :=
  ∃ schedule, crew.run? trade schedule = some last

theorem Reaches.refl (crew : Crew State Job) : Reaches trade crew crew := ⟨[], rfl⟩

theorem run?_append (crew : Crew State Job) (first second : List Actor) :
    crew.run? trade (first ++ second) = (crew.run? trade first).bind (·.run? trade second) := by
  induction first generalizing crew with
  | nil => rfl
  | cons actor first ih => simp only [List.cons_append, run?, Option.bind_assoc, ih]

theorem Reaches.trans {crew middle last : Crew State Job} (first : Reaches trade crew middle)
    (second : Reaches trade middle last) : Reaches trade crew last := by
  obtain ⟨before, ran⟩ := first
  obtain ⟨after, wentOn⟩ := second
  exact ⟨before ++ after, by rw [run?_append, ran, Option.bind_some, wentOn]⟩

theorem reaches_first {state next : State} {stage after : Stage Job} (others : List (Stage Job))
    (watch : Watch) (turned : trade.turn state stage = some (next, after)) :
    Reaches trade ⟨state, stage :: others, watch⟩ ⟨next, after :: others, watch⟩ :=
  ⟨[.worker 0], by simp [run?, step?, turned]⟩

/-- The books of a crew agree with its queue. -/
structure Sound (trade : Trade State Item Job) (crew : Crew State Job) : Prop where
  queue : (trade.queue crew.state).Sound 0
  outstanding : (trade.queue crew.state).outstanding =
    (trade.queue crew.state).items.length + crew.stages.countP (·.isHolding)
  tickets : (crew.stages.filterMap (·.ticket?)).Perm
    ((trade.queue crew.state).consumers.map (·.ticket))
  joiners : (trade.queue crew.state).joiners.map (·.ticket) = crew.watch.ticket?.toList
  closed : (trade.queue crew.state).closed = true ↔ crew.watch = .through
  gone : .gone ∈ crew.stages → crew.watch = .through
  released : crew.watch.isReleased = true → (trade.queue crew.state).outstanding = 0

theorem start_sound (state : State) (items : List Item) (workers : Nat)
    (fresh : trade.queue state = Queue.empty.pushAll items) :
    (start state workers : Crew State Job).Sound trade := by
  refine ⟨?_, ?_, ?_, ?_, ?_, ?_, ?_⟩
  · exact fresh ▸ Queue.pushAll_sound Queue.sound_empty items
  · simp [start, fresh, Queue.empty, List.countP_replicate, Stage.isHolding]
  · simp [start, fresh, Queue.empty, List.filterMap_replicate_of_none, Stage.ticket?]
  · simp [start, fresh, Queue.empty, Watch.ticket?]
  · simp [start, fresh, Queue.empty]
  · simp [start, List.mem_replicate]
  · simp [start, Watch.isReleased]

private theorem ask_sound {crew : Crew State Job} (sound : crew.Sound trade)
    {before after : List (Stage Job)} {stage : Stage Job}
    (split : crew.stages = before ++ stage :: after) (free : stage.isHolding = false)
    {queue : Queue Item} (queueSound : queue.Sound 1)
    (items : queue.items = (trade.queue crew.state).items)
    (outstanding : queue.outstanding = (trade.queue crew.state).outstanding)
    (closed : queue.closed = (trade.queue crew.state).closed)
    (joiners : queue.joiners = (trade.queue crew.state).joiners)
    (tickets : (before.filterMap (·.ticket?) ++ after.filterMap (·.ticket?)).Perm
      (queue.consumers.map (·.ticket))) :
    Sound trade ⟨(trade.asked crew.state queue.pop).1,
      before ++ (trade.asked crew.state queue.pop).2 :: after, crew.watch⟩ := by
  have counted := sound.outstanding
  have others : .gone ∈ before ++ after → crew.watch = .through := fun member =>
    sound.gone (split ▸ by simp only [List.mem_append, List.mem_cons] at member ⊢; tauto)
  rw [split, List.countP_append, List.countP_cons_of_neg (by simp [free])] at counted
  simp only [Trade.asked]
  refine ⟨?_, ?_, ?_, ?_, ?_, ?_, ?_⟩
  · rw [trade.queue_withQueue]
    exact Queue.pop_sound queueSound
  all_goals
    obtain ⟨item, rest, found, taken⟩ | ⟨found, shut, taken⟩ | ⟨found, opened, taken⟩ := queue.pop_cases
    all_goals simp only [taken, trade.queue_withQueue, Trade.stageOf]
  · have longer : (trade.queue crew.state).items.length = rest.length + 1 := by
      rw [← items, found, List.length_cons]
    rw [List.countP_append, List.countP_cons_of_pos rfl]
    omega
  · rw [List.countP_append, List.countP_cons_of_neg Bool.false_ne_true, items]
    omega
  · rw [List.countP_append, List.countP_cons_of_neg Bool.false_ne_true, items]
    omega
  · simpa [List.filterMap_append, Stage.ticket?] using tickets
  · simpa [List.filterMap_append, Stage.ticket?] using tickets
  · simp only [List.filterMap_append, List.filterMap_cons, Stage.ticket?, List.map_append,
      List.map_cons, List.map_nil]
    exact List.perm_middle.trans ((tickets.cons _).trans (List.perm_append_singleton _ _).symm)
  · exact joiners ▸ sound.joiners
  · exact joiners ▸ sound.joiners
  · exact joiners ▸ sound.joiners
  · exact closed ▸ sound.closed
  · exact closed ▸ sound.closed
  · exact closed ▸ sound.closed
  · intro member
    exact others (by simpa using member)
  · intro _
    exact sound.closed.mp (closed ▸ shut)
  · intro member
    exact others (by simpa using member)
  · exact fun past => outstanding ▸ sound.released past
  · exact fun past => outstanding ▸ sound.released past
  · exact fun past => outstanding ▸ sound.released past

private theorem act_sound {crew : Crew State Job} (sound : crew.Sound trade)
    {before after : List (Stage Job)} {job : Job} (split : crew.stages = before ++ .busy job :: after) :
    Sound trade ⟨(trade.act crew.state job).1,
      before ++ (trade.act crew.state job).2.elim .finishing .busy :: after, crew.watch⟩ := by
  obtain ⟨items, pushed⟩ := trade.act_pushes crew.state job
  have counted := sound.outstanding
  have ticketed := sound.tickets
  rw [split, List.countP_append, List.countP_cons_of_pos rfl] at counted
  rw [split, List.filterMap_append, List.filterMap_cons_none rfl] at ticketed
  generalize became : (trade.act crew.state job).2.elim Stage.finishing Stage.busy = next
  have holding : (next :: after).countP (·.isHolding) = after.countP (·.isHolding) + 1 := by
    rw [← became]
    cases (trade.act crew.state job).2 <;> exact List.countP_cons_of_pos rfl
  have ticketless : (next :: after).filterMap (·.ticket?) = after.filterMap (·.ticket?) := by
    rw [← became]
    cases (trade.act crew.state job).2 <;> exact List.filterMap_cons_none rfl
  have staying : .gone ≠ next := by
    rw [← became]
    cases (trade.act crew.state job).2 <;> exact nofun
  refine ⟨?_, ?_, ?_, ?_, ?_, ?_, ?_⟩
  all_goals simp only [pushed]
  · exact Queue.pushAll_sound sound.queue items
  · rw [Queue.pushAll_outstanding, Queue.pushAll_items, List.length_append, List.countP_append, holding]
    omega
  · rw [List.filterMap_append, ticketless, Queue.pushAll_tickets]
    exact ticketed
  · simpa using sound.joiners
  · simpa using sound.closed
  · intro member
    exact sound.gone (split ▸ by simpa [staying] using member)
  · intro past
    have none := sound.released past
    omega

private theorem finish_sound {crew : Crew State Job} (sound : crew.Sound trade)
    {before after : List (Stage Job)} (split : crew.stages = before ++ .finishing :: after)
    (busy : (trade.queue crew.state).outstanding ≠ 0) :
    Sound trade ⟨trade.withQueue crew.state (trade.queue crew.state).release,
      before ++ .idle :: after, crew.watch⟩ := by
  have counted := sound.outstanding
  have ticketed := sound.tickets
  rw [split, List.countP_append, List.countP_cons_of_pos rfl] at counted
  rw [split, List.filterMap_append, List.filterMap_cons_none rfl] at ticketed
  refine ⟨?_, ?_, ?_, ?_, ?_, ?_, ?_⟩
  all_goals simp only [trade.queue_withQueue]
  · exact Queue.release_sound sound.queue
  · rw [List.countP_append, List.countP_cons_of_neg Bool.false_ne_true]
    change (trade.queue crew.state).outstanding - 1 = (trade.queue crew.state).items.length + _
    omega
  · rw [List.filterMap_append, List.filterMap_cons_none rfl]
    exact ticketed
  · rw [Queue.release_tickets]
    exact sound.joiners
  · exact sound.closed
  · intro member
    exact sound.gone (split ▸ by simpa using member)
  · exact fun past => absurd (sound.released past) busy

private theorem worker_sound {crew next : Crew State Job} (sound : crew.Sound trade) {place : Nat}
    (stepped : crew.step? trade (.worker place) = some next) : next.Sound trade := by
  obtain ⟨before, stage, after, stage', split, turned, stages, watch⟩ := step?_worker stepped
  have rebuilt : next = ⟨next.state, before ++ stage' :: after, crew.watch⟩ := by
    rw [← stages, ← watch]
  have ticketed := sound.tickets
  rw [split, List.filterMap_append] at ticketed
  rw [rebuilt]
  obtain ⟨rfl, asked⟩ | ⟨ticket, rfl, called, asked⟩ | ⟨job, rfl, acted, became⟩ |
    ⟨rfl, busy, released, rfl⟩ := Trade.turn_cases turned
  · obtain ⟨state, became⟩ := Prod.mk.inj asked
    rw [state, became]
    exact ask_sound sound split rfl sound.queue.loosen rfl rfl rfl rfl
      (by simpa [Stage.ticket?] using ticketed)
  · obtain ⟨state, became⟩ := Prod.mk.inj asked
    obtain ⟨consumer, found, _, resumed⟩ := Queue.resumePop_of_isCalled called
    obtain ⟨early, late, places, same, left⟩ := Queue.removeConsumer_split sound.queue found
    rw [state, became, resumed]
    refine ask_sound sound split rfl (Queue.removeConsumer_sound sound.queue found) rfl rfl rfl rfl ?_
    rw [places, List.map_append, List.map_cons, same] at ticketed
    rw [left, List.map_append]
    exact (List.perm_middle.symm.trans (ticketed.trans List.perm_middle)).cons_inv
  · rw [acted, became]
    exact act_sound sound split
  · rw [released]
    exact finish_sound sound split busy

private theorem rejoin_sound {crew next : Crew State Job} (sound : crew.Sound trade)
    (going : crew.watch ≠ .through) {queue : Queue Item} (queueSound : queue.Sound 0)
    (alone : queue.joiners = []) (items : queue.items = (trade.queue crew.state).items)
    (outstanding : queue.outstanding = (trade.queue crew.state).outstanding)
    (consumers : queue.consumers = (trade.queue crew.state).consumers)
    (closed : queue.closed = (trade.queue crew.state).closed)
    (queued : trade.queue next.state = queue.join.1) (stages : next.stages = crew.stages)
    (watch : next.watch = Watch.ofJoined queue.join.2) : next.Sound trade := by
  have opened : (trade.queue crew.state).closed ≠ true := fun shut => going (sound.closed.mp shut)
  refine ⟨queued ▸ Queue.join_sound queueSound, ?_, ?_, ?_, ?_, ?_, ?_⟩
  all_goals simp only [queued, stages, watch]
  · rw [Queue.join_outstanding, Queue.join_items, outstanding, items]
    exact sound.outstanding
  · rw [Queue.join_consumers, consumers]
    exact sound.tickets
  · obtain ⟨_, answer⟩ | ⟨_, answer⟩ := queue.join_cases <;>
      simp [answer, alone, Watch.ofJoined, Watch.ticket?]
  · rw [Queue.join_closed, closed]
    obtain ⟨_, answer⟩ | ⟨_, answer⟩ := queue.join_cases <;>
      simpa [answer, Watch.ofJoined] using opened
  · exact fun member => absurd (sound.gone member) going
  · rw [Queue.join_outstanding]
    obtain ⟨idle, answer⟩ | ⟨_, answer⟩ := queue.join_cases
    · exact fun _ => idle
    · simp [answer, Watch.ofJoined, Watch.isReleased]

private theorem overseer_sound {crew next : Crew State Job} (sound : crew.Sound trade)
    (stepped : crew.step? trade .overseer = some next) : next.Sound trade := by
  obtain ⟨queue, turned, state, stages⟩ := step?_overseer stepped
  have queued : trade.queue next.state = queue := state ▸ trade.queue_withQueue _ _
  have waited := sound.joiners
  cases watching : crew.watch with
  | joining =>
    simp only [watching, Watch.turn, Option.some.injEq, Prod.mk.injEq] at turned
    rw [watching] at waited
    exact rejoin_sound sound (by simp [watching]) sound.queue (by simpa [Watch.ticket?] using waited)
      rfl rfl rfl rfl (queued.trans turned.1.symm) stages turned.2.symm
  | waiting ticket =>
    simp only [watching, Watch.turn] at turned
    split at turned
    next free =>
      simp only [Option.some.injEq, Prod.mk.injEq, Queue.resumeJoin_of_isReleased free] at turned
      rw [watching] at waited
      obtain ⟨joiner, only, same⟩ := List.map_eq_singleton_iff.mp waited
      exact rejoin_sound sound (by simp [watching]) (Queue.abandonJoin_sound sound.queue ticket)
        (by simp [Queue.abandonJoin, only, same]) rfl rfl rfl rfl (queued.trans turned.1.symm) stages
        turned.2.symm
    next => cases turned
  | closing =>
    simp only [watching, Watch.turn, Option.some.injEq, Prod.mk.injEq] at turned
    obtain ⟨rfl, watch⟩ := turned
    refine ⟨queued ▸ Queue.close_sound sound.queue, ?_, ?_, ?_, ?_, ?_, ?_⟩
    all_goals simp only [queued, stages, ← watch]
    · exact sound.outstanding
    · rw [Queue.close_tickets]
      exact sound.tickets
    · rw [watching] at waited
      exact waited
    · simp [Queue.close]
    · exact fun _ => trivial
    · exact fun _ => sound.released (by simp [watching, Watch.isReleased])
  | through => simp [watching, Watch.turn] at turned

theorem step_sound {crew next : Crew State Job} {actor : Actor} (sound : crew.Sound trade)
    (stepped : crew.step? trade actor = some next) : next.Sound trade := by
  cases actor with
  | worker place => exact worker_sound sound stepped
  | overseer => exact overseer_sound sound stepped

theorem run_sound {crew last : Crew State Job} {schedule : List Actor} (sound : crew.Sound trade)
    (ran : crew.run? trade schedule = some last) : last.Sound trade :=
  run?_keeps _ (fun _ _ _ kept stepped => step_sound kept stepped) ran sound

theorem Reaches.sound {crew last : Crew State Job} (reached : Reaches trade crew last)
    (sound : crew.Sound trade) : last.Sound trade := by
  obtain ⟨_, ran⟩ := reached
  exact run_sound sound ran

theorem Sound.busy {crew : Crew State Job} (sound : crew.Sound trade) {stage : Stage Job}
    (member : stage ∈ crew.stages) (holding : stage.isHolding = true) :
    (trade.queue crew.state).outstanding ≠ 0 := by
  have held : 0 < crew.stages.countP (·.isHolding) :=
    List.countP_pos_iff.mpr ⟨stage, member, holding⟩
  rw [sound.outstanding]
  omega

/-! When nothing is outstanding. -/

theorem Sound.quiet {crew : Crew State Job} (sound : crew.Sound trade)
    (done : (trade.queue crew.state).outstanding = 0) :
    (trade.queue crew.state).items = [] ∧ ∀ stage ∈ crew.stages, stage.isHolding = false := by
  have counted := sound.outstanding
  refine ⟨List.length_eq_zero_iff.mp (by omega), fun stage member => ?_⟩
  have none : crew.stages.countP (·.isHolding) = 0 := by omega
  simpa using List.countP_eq_zero.mp none stage member

theorem Sound.idle {crew : Crew State Job} (sound : crew.Sound trade)
    (done : (trade.queue crew.state).outstanding = 0) : crew.jobs = [] := by
  apply List.filterMap_eq_nil_iff.mpr
  intro stage member
  have free := (sound.quiet done).2 stage member
  cases stage with
  | busy job => cases free
  | idle | waiting ticket | finishing | gone => rfl

/-- Then a step at most rearranges who waits. -/
theorem step_quiet {crew next : Crew State Job} {actor : Actor} (sound : crew.Sound trade)
    (done : (trade.queue crew.state).outstanding = 0)
    (stepped : crew.step? trade actor = some next) :
    (trade.queue next.state).outstanding = 0 ∧
      ∃ queue, next.state = trade.withQueue crew.state queue := by
  obtain ⟨empty, free⟩ := sound.quiet done
  cases actor with
  | overseer =>
    obtain ⟨queue, turned, state, _⟩ := step?_overseer stepped
    refine ⟨?_, queue, state⟩
    rw [state, trade.queue_withQueue, (Watch.turn_keeps turned).2]
    exact done
  | worker place =>
    obtain ⟨before, stage, after, stage', split, turned, _, _⟩ := step?_worker stepped
    have idle := free stage (split ▸ by simp)
    obtain ⟨rfl, asked⟩ | ⟨ticket, rfl, called, asked⟩ | ⟨job, rfl, _⟩ | ⟨rfl, busy, _⟩ :=
      Trade.turn_cases turned
    · rw [(Prod.mk.inj asked).1]
      exact ⟨by simp [trade.queue_withQueue, done], _, rfl⟩
    · obtain ⟨_, _, _, resumed⟩ := Queue.resumePop_of_isCalled called
      rw [(Prod.mk.inj asked).1, resumed]
      exact ⟨by simpa [Trade.asked, trade.queue_withQueue, Queue.removeConsumer] using done, _, rfl⟩
    · cases idle
    · exact absurd done busy

/-- What nobody who waits can change stays as it is. -/
theorem run_quiet {View : Type} (view : State → View)
    (blind : ∀ state queue, view (trade.withQueue state queue) = view state)
    {crew last : Crew State Job} {schedule : List Actor} (sound : crew.Sound trade)
    (done : (trade.queue crew.state).outstanding = 0)
    (ran : crew.run? trade schedule = some last) :
    (trade.queue last.state).outstanding = 0 ∧ view last.state = view crew.state := by
  have kept := run?_keeps
    (fun now => now.Sound trade ∧ (trade.queue now.state).outstanding = 0 ∧
      view now.state = view crew.state)
    (fun now actor next ⟨sound, done, same⟩ stepped =>
      have ⟨still, queue, state⟩ := step_quiet sound done stepped
      ⟨step_sound sound stepped, still, by rw [state, blind, same]⟩)
    ran ⟨sound, done, rfl⟩
  exact kept.2

end Crew

/-- A property of the shared state and the jobs under way that holds in whatever order they are
worked on. -/
structure Trade.Keeps (trade : Trade State Item Job) (Holds : State → Multiset Job → Prop) :
    Prop where
  keep {state : State} {jobs : Multiset Job} {queue : Queue Item} : Holds state jobs →
    queue.items = (trade.queue state).items → Holds (trade.withQueue state queue) jobs
  take {state : State} {jobs : Multiset Job} {item : Item} {queue : Queue Item} :
    Holds state jobs → (trade.queue state).items = item :: queue.items →
    Holds (trade.withQueue state queue) (trade.jobOf item ::ₘ jobs)
  act {state : State} {job : Job} {jobs : Multiset Job} : Holds state (job ::ₘ jobs) →
    Holds (trade.act state job).1 ((trade.act state job).2.elim jobs (· ::ₘ jobs))

namespace Crew

theorem jobs_split {crew : Crew State Job} {before after : List (Stage Job)}
    {stage : Stage Job} (split : crew.stages = before ++ stage :: after) :
    (crew.jobs : Multiset Job) =
      stage.job?.elim ↑((before ++ after).filterMap (·.job?))
        (· ::ₘ ↑((before ++ after).filterMap (·.job?))) := by
  rw [jobs, split, List.filterMap_append, List.filterMap_cons, List.filterMap_append]
  cases stage.job? with
  | none => rfl
  | some job => exact Multiset.coe_eq_coe.mpr List.perm_middle

variable {Holds : State → Multiset Job → Prop}

private theorem ask_keeps (keeps : trade.Keeps Holds) {state : State} {queue : Queue Item}
    (items : queue.items = (trade.queue state).items) {rest : Multiset Job}
    (holds : Holds state rest) :
    Holds (trade.asked state queue.pop).1
      ((trade.asked state queue.pop).2.job?.elim rest (· ::ₘ rest)) := by
  obtain ⟨item, left, found, taken⟩ | ⟨_, _, taken⟩ | ⟨_, _, taken⟩ := queue.pop_cases
  · rw [taken]
    exact keeps.take holds (items ▸ found)
  · rw [taken]
    exact keeps.keep holds items
  · rw [taken]
    exact keeps.keep holds items

theorem step_keeps (keeps : trade.Keeps Holds) {crew next : Crew State Job} {actor : Actor}
    (holds : Holds crew.state crew.jobs) (stepped : crew.step? trade actor = some next) :
    Holds next.state next.jobs := by
  cases actor with
  | overseer =>
    obtain ⟨queue, turned, state, stages⟩ := step?_overseer stepped
    rw [state, jobs, stages]
    exact keeps.keep holds (Watch.turn_keeps turned).1
  | worker place =>
    obtain ⟨before, stage, after, stage', split, turned, stages, _⟩ := step?_worker stepped
    rw [jobs_split split] at holds
    rw [jobs_split stages]
    obtain ⟨rfl, asked⟩ | ⟨ticket, rfl, called, asked⟩ | ⟨job, rfl, acted, became⟩ |
      ⟨rfl, _, released, rfl⟩ := Trade.turn_cases turned
    · obtain ⟨state, became⟩ := Prod.mk.inj asked
      rw [state, became]
      exact ask_keeps keeps rfl holds
    · obtain ⟨state, became⟩ := Prod.mk.inj asked
      obtain ⟨_, _, _, resumed⟩ := Queue.resumePop_of_isCalled called
      have items : ((trade.queue crew.state).removeConsumer ticket).items =
        (trade.queue crew.state).items := rfl
      rw [state, became, resumed]
      exact ask_keeps keeps items holds
    · have left : stage'.job? = (trade.act crew.state job).2 := by
        rw [became]
        cases (trade.act crew.state job).2 <;> rfl
      rw [acted, left]
      exact keeps.act holds
    · rw [released]
      exact keeps.keep holds rfl

theorem run_keeps (keeps : trade.Keeps Holds) {crew last : Crew State Job} {schedule : List Actor}
    (holds : Holds crew.state crew.jobs) (ran : crew.run? trade schedule = some last) :
    Holds last.state last.jobs :=
  run?_keeps (fun now => Holds now.state now.jobs)
    (fun _ _ _ kept stepped => step_keeps keeps kept stepped) ran holds

@[simp] theorem start_jobs (state : State) (workers : Nat) :
    (start state workers : Crew State Job).jobs = [] := by
  simp [start, jobs, List.filterMap_replicate_of_none, Stage.job?]

end Crew

end PageLoad.Work

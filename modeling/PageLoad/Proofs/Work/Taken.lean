import PageLoad.Proofs.Work.Crew

/-!
The items that workers take in the course of a run. If a record is kept of all items that are ever
queued, it consists of those that have been taken and those that are still queued, in order.
-/

namespace PageLoad.Work

variable {State Item Job : Type} {trade : Trade State Item Job}

def Trade.given? (trade : Trade State Item Job) (state : State) : Stage Job → Option Item
  | .idle => (trade.queue state).pop.2.item?
  | .waiting ticket => ((trade.queue state).resumePop ticket).2.item?
  | .busy _ | .finishing | .gone => none

namespace Crew

def given? (trade : Trade State Item Job) (crew : Crew State Job) : Actor → Option Item
  | .worker place => crew.stages[place]?.bind (trade.given? crew.state)
  | .overseer => none

def taken (trade : Trade State Item Job) (crew : Crew State Job) : List Actor → List Item
  | [] => []
  | actor :: rest =>
    (crew.given? trade actor).toList ++ (crew.step? trade actor).elim [] (taken trade · rest)

end Crew

/-- A record of all items that are ever queued. -/
structure Trade.Logs (trade : Trade State Item Job) (log : State → List Item) : Prop where
  keep (state : State) (queue : Queue Item) : log (trade.withQueue state queue) = log state
  act (state : State) (job : Job) :
    ∃ items, trade.queue (trade.act state job).1 = (trade.queue state).pushAll items ∧
      log (trade.act state job).1 = log state ++ items

namespace Crew

variable {log : State → List Item}

/-- What is queued in a turn goes to the end of the queue and of the record, and what is taken comes
from the front of the queue. -/
theorem step_taken (logs : trade.Logs log) {crew next : Crew State Job} {actor : Actor}
    (stepped : crew.step? trade actor = some next) :
    ∃ pushed, log next.state = log crew.state ++ pushed ∧
      (trade.queue crew.state).items ++ pushed =
        (crew.given? trade actor).toList ++ (trade.queue next.state).items := by
  cases actor with
  | overseer =>
    obtain ⟨queue, turned, state, _⟩ := step?_overseer stepped
    refine ⟨[], ?_, ?_⟩
    · rw [state, logs.keep, List.append_nil]
    · rw [state, trade.queue_withQueue, (Watch.turn_keeps turned).1, List.append_nil]
      rfl
  | worker place =>
    simp only [step?, Option.bind_eq_bind, Option.bind_eq_some_iff] at stepped
    obtain ⟨stage, found, ⟨state, stage'⟩, turned, rebuilt⟩ := stepped
    cases rebuilt
    simp only [given?, found, Option.bind_some]
    obtain ⟨rfl, asked⟩ | ⟨ticket, rfl, called, asked⟩ | ⟨job, rfl, rfl, _⟩ | ⟨rfl, _, rfl, _⟩ :=
      Trade.turn_cases turned
    · rw [(Prod.mk.inj asked).1]
      refine ⟨[], ?_, ?_⟩
      · rw [logs.keep, List.append_nil]
      · rw [trade.queue_withQueue, List.append_nil]
        exact Queue.pop_items _
    · obtain ⟨_, _, _, resumed⟩ := Queue.resumePop_of_isCalled called
      rw [(Prod.mk.inj asked).1]
      refine ⟨[], ?_, ?_⟩
      · rw [logs.keep, List.append_nil]
      · rw [trade.queue_withQueue, List.append_nil, Trade.given?, resumed]
        exact Queue.pop_items ((trade.queue crew.state).removeConsumer ticket)
    · obtain ⟨items, pushed, logged⟩ := logs.act crew.state job
      refine ⟨items, logged, ?_⟩
      rw [pushed, Queue.pushAll_items]
      rfl
    · refine ⟨[], ?_, ?_⟩
      · rw [logs.keep, List.append_nil]
      · rw [trade.queue_withQueue, List.append_nil]
        rfl

theorem run_taken (logs : trade.Logs log) {crew last : Crew State Job} {schedule : List Actor}
    (ran : crew.run? trade schedule = some last) {earlier : List Item}
    (logged : log crew.state = earlier ++ (trade.queue crew.state).items) :
    log last.state = earlier ++ crew.taken trade schedule ++ (trade.queue last.state).items := by
  induction schedule generalizing crew earlier with
  | nil =>
    cases ran
    rw [taken, List.append_nil]
    exact logged
  | cons actor schedule ih =>
    obtain ⟨next, stepped, ran⟩ := Option.bind_eq_some_iff.mp ran
    obtain ⟨pushed, grown, moved⟩ := step_taken logs stepped
    have before : log next.state =
        (earlier ++ (crew.given? trade actor).toList) ++ (trade.queue next.state).items := by
      rw [grown, logged, List.append_assoc, moved, List.append_assoc]
    rw [ih ran before, taken, stepped, Option.elim_some, List.append_assoc earlier]

end Crew

end PageLoad.Work

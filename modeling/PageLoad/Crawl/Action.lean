import PageLoad.Crawl.Round
import PageLoad.Work.Operation

/-!
What those who share a round may do with it, one thing after another. Tasks get into its queue by being
offered, and in no other way.
-/

namespace PageLoad.Crawl
open Work

inductive Action where
  | offer (task : Task)
  | record (report : TaskReport)
  /-- To do something with its queue, other than to add to it. -/
  | handle (operation : Operation Task) (apart : ∀ task, operation ≠ .push task)

inductive Reply where
  | offered (isNew : Bool)
  | recorded
  | handled (answer : Answer Task)

structure Deed where
  action : Action
  reply : Reply

namespace Round

def perform (round : Round) : Action → Round × Reply
  | .offer task => ((round.offer task).1, .offered (round.offer task).2)
  | .record report => (round.record report.bytes, .recorded)
  | .handle operation _ =>
    ({ round with queue := (round.queue.perform operation).1 },
      .handled (round.queue.perform operation).2)

def performAll (round : Round) : List Action → Round × List Deed
  | [] => (round, [])
  | action :: rest =>
    let (next, reply) := round.perform action
    let (last, deeds) := next.performAll rest
    (last, ⟨action, reply⟩ :: deeds)

end Round

end PageLoad.Crawl

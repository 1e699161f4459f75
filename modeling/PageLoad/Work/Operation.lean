import PageLoad.Work.Queue

/-!
What those who share a queue may do with it, one thing after another.
-/

namespace PageLoad.Work

/-- What can be done with a queue. Whoever waits is named by a ticket. -/
inductive Operation (α : Type) where
  | push (item : α)
  | pop
  | resumePop (ticket : Nat)
  | abandonPop (ticket : Nat)
  | markDone
  | join
  | resumeJoin (ticket : Nat)
  | abandonJoin (ticket : Nat)
  | close
  deriving DecidableEq, Repr

inductive Answer (α : Type) where
  | done
  | overdrawn
  | taken (answer : Taken α)
  | joined (answer : Joined)
  deriving Repr

namespace Queue

variable {α : Type}

def perform (queue : Queue α) : Operation α → Queue α × Answer α
  | .push item => (queue.push item, .done)
  | .pop => (queue.pop.1, .taken queue.pop.2)
  | .resumePop ticket => ((queue.resumePop ticket).1, .taken (queue.resumePop ticket).2)
  | .abandonPop ticket => (queue.abandonPop ticket, .done)
  | .markDone =>
    match queue.markDone? with
    | some released => (released, .done)
    | none => (queue, .overdrawn)
  | .join => (queue.join.1, .joined queue.join.2)
  | .resumeJoin ticket => ((queue.resumeJoin ticket).1, .joined (queue.resumeJoin ticket).2)
  | .abandonJoin ticket => (queue.abandonJoin ticket, .done)
  | .close => (queue.close, .done)

def performAll (queue : Queue α) : List (Operation α) → Queue α × List (Answer α)
  | [] => (queue, [])
  | operation :: rest =>
    let (next, answer) := queue.perform operation
    let (last, answers) := next.performAll rest
    (last, answer :: answers)

def afterAll (operations : List (Operation α)) : Queue α := (empty.performAll operations).1

end Queue

end PageLoad.Work

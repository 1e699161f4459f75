import PageLoad.Work.Queue

/-!
A crew: workers that share a queue, and an overseer who waits until all the work is done and
closes the queue then. They act one at a time, in any order.
-/

namespace PageLoad.Work

namespace Queue

variable {α : Type}

def pushAll (queue : Queue α) (items : List α) : Queue α := items.foldl push queue

def isCalled (queue : Queue α) (ticket : Nat) : Bool :=
  (queue.consumer? ticket).any (·.notice.isSome)

def isReleased (queue : Queue α) (ticket : Nat) : Bool :=
  (queue.joiner? ticket).any (·.notified)

end Queue

/-- How items are worked on: by actions on a state that is shared and holds the queue. An action
says what is left of the job, and all that it does to the queue is to add to it. -/
structure Trade (State Item Job : Type) where
  queue : State → Queue Item
  withQueue : State → Queue Item → State
  jobOf : Item → Job
  act : State → Job → State × Option Job
  queue_withQueue (state : State) (replaced : Queue Item) :
    queue (withQueue state replaced) = replaced
  act_pushes (state : State) (job : Job) :
    ∃ items, queue (act state job).1 = (queue state).pushAll items

inductive Stage (Job : Type) where
  | idle
  | waiting (ticket : Nat)
  | busy (job : Job)
  | finishing
  | gone
  deriving Repr

namespace Stage

variable {Job : Type}

def job? : Stage Job → Option Job
  | .busy job => some job
  | _ => none

def ticket? : Stage Job → Option Nat
  | .waiting ticket => some ticket
  | _ => none

def isHolding : Stage Job → Bool
  | .busy _ | .finishing => true
  | _ => false

end Stage

inductive Watch where
  | joining
  | waiting (ticket : Nat)
  | closing
  | through
  deriving DecidableEq, Repr

structure Crew (State Job : Type) where
  state : State
  stages : List (Stage Job)
  watch : Watch

inductive Actor where
  | worker (place : Nat)
  | overseer
  deriving DecidableEq, Repr

namespace Trade

variable {State Item Job : Type} (trade : Trade State Item Job)

def stageOf : Taken Item → Stage Job
  | .item item => .busy (trade.jobOf item)
  | .closed => .gone
  | .pending ticket => .waiting ticket

def asked (state : State) (answer : Queue Item × Taken Item) : State × Stage Job :=
  (trade.withQueue state answer.1, trade.stageOf answer.2)

/-- A worker's turn. There is none for one that waits without notice or is gone. -/
def turn (state : State) : Stage Job → Option (State × Stage Job)
  | .idle => some (trade.asked state (trade.queue state).pop)
  | .waiting ticket =>
    if (trade.queue state).isCalled ticket then
      some (trade.asked state ((trade.queue state).resumePop ticket))
    else none
  | .busy job => some ((trade.act state job).1, (trade.act state job).2.elim .finishing .busy)
  | .finishing =>
    (trade.queue state).markDone?.map fun queue => (trade.withQueue state queue, .idle)
  | .gone => none

end Trade

namespace Watch

def ticket? : Watch → Option Nat
  | .waiting ticket => some ticket
  | _ => none

def isReleased : Watch → Bool
  | .closing | .through => true
  | _ => false

def ofJoined : Joined → Watch
  | .joined => .closing
  | .pending ticket => .waiting ticket

/-- The overseer's turn. There is none while it waits without notice, or after the last. -/
def turn {Item : Type} (queue : Queue Item) : Watch → Option (Queue Item × Watch)
  | .joining => some (queue.join.1, ofJoined queue.join.2)
  | .waiting ticket =>
    if queue.isReleased ticket then
      some ((queue.resumeJoin ticket).1, ofJoined (queue.resumeJoin ticket).2)
    else none
  | .closing => some (queue.close, .through)
  | .through => none

end Watch

namespace Crew

variable {State Item Job : Type}

def start (state : State) (workers : Nat) : Crew State Job :=
  ⟨state, List.replicate workers .idle, .joining⟩

def step? (trade : Trade State Item Job) (crew : Crew State Job) : Actor → Option (Crew State Job)
  | .worker place => do
    let stage ← crew.stages[place]?
    let (state, next) ← trade.turn crew.state stage
    return { crew with state, stages := crew.stages.set place next }
  | .overseer => do
    let (queue, watch) ← crew.watch.turn (trade.queue crew.state)
    return { crew with state := trade.withQueue crew.state queue, watch }

def run? (trade : Trade State Item Job) (crew : Crew State Job) :
    List Actor → Option (Crew State Job)
  | [] => some crew
  | actor :: rest => (crew.step? trade actor).bind (run? trade · rest)

def jobs (crew : Crew State Job) : List Job := crew.stages.filterMap (·.job?)

/-- Gives turns in some order, as long as no two workers are busy at the same time. -/
def runSingly? (trade : Trade State Item Job) (crew : Crew State Job) :
    List Actor → Option (Crew State Job)
  | [] => some crew
  | actor :: rest =>
    (crew.step? trade actor).bind fun next =>
      if next.jobs.length ≤ 1 then runSingly? trade next rest else none

end Crew

end PageLoad.Work

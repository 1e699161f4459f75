/-!
A first-in, first-out queue of work that is shared by several consumers and knows when all of
its work has been done.

A consumer that finds the queue empty waits. It does not move again before it has been given
notice: each item that is pushed gives notice to the consumer that has waited longest without,
or leaves one permit behind if there is none. Whoever waits for the work to be done is given
notice when nothing is outstanding.
-/

namespace PageLoad.Work

inductive Notice where
  | push
  | close
  deriving DecidableEq, Repr

structure Consumer where
  ticket : Nat
  notice : Option Notice
  deriving DecidableEq, Repr

structure Joiner where
  ticket : Nat
  notified : Bool
  deriving DecidableEq, Repr

structure Queue (α : Type) where
  items : List α
  /-- How many items have been pushed whose work has not been marked done. -/
  outstanding : Nat
  closed : Bool
  /-- A notice that nobody was there to take. -/
  permit : Bool
  consumers : List Consumer
  joiners : List Joiner
  nextTicket : Nat
  deriving Repr

inductive Taken (α : Type) where
  | item (value : α)
  | closed
  | pending (ticket : Nat)
  deriving Repr

inductive Joined where
  | joined
  | pending (ticket : Nat)
  deriving DecidableEq, Repr

def notifyFirst (notice : Notice) : List Consumer → Option (List Consumer)
  | [] => none
  | consumer :: rest =>
    if consumer.notice.isNone then some ({ consumer with notice := some notice } :: rest)
    else (notifyFirst notice rest).map (consumer :: ·)

namespace Queue

variable {α : Type}

def empty : Queue α := ⟨[], 0, false, false, [], [], 0⟩

/-- Passes on the notice of a push: to the consumer that has waited longest without, else as
the permit. -/
def notifyOne (queue : Queue α) : Queue α :=
  match notifyFirst .push queue.consumers with
  | some consumers => { queue with consumers }
  | none => { queue with permit := true }

def push (queue : Queue α) (item : α) : Queue α :=
  let filled :=
    { queue with items := queue.items ++ [item], outstanding := queue.outstanding + 1 }
  filled.notifyOne

def take? (queue : Queue α) : Option (α × Queue α) :=
  match queue.items with
  | [] => none
  | item :: rest => some (item, { queue with items := rest })

/-- One turn of a consumer. It uses up the permit; if there is nothing to take and the queue is
open, it waits in the last place. -/
def pop (queue : Queue α) : Queue α × Taken α :=
  let queue := { queue with permit := false }
  match queue.take? with
  | some (item, rest) => (rest, .item item)
  | none =>
    if queue.closed then (queue, .closed)
    else
      let ticket := queue.nextTicket
      ({ queue with
          consumers := queue.consumers ++ [⟨ticket, none⟩], nextTicket := ticket + 1 },
        .pending ticket)

def consumer? (queue : Queue α) (ticket : Nat) : Option Consumer :=
  queue.consumers.find? (·.ticket = ticket)

def removeConsumer (queue : Queue α) (ticket : Nat) : Queue α :=
  { queue with consumers := queue.consumers.filter (·.ticket ≠ ticket) }

def resumePop (queue : Queue α) (ticket : Nat) : Queue α × Taken α :=
  match queue.consumer? ticket with
  | none => (queue, .pending ticket)
  | some consumer =>
    if consumer.notice.isNone then (queue, .pending ticket)
    else (queue.removeConsumer ticket).pop

/-- Gives up waiting. The notice of a push that has not been used is passed on. -/
def abandonPop (queue : Queue α) (ticket : Nat) : Queue α :=
  let left := queue.removeConsumer ticket
  match (queue.consumer? ticket).bind (·.notice) with
  | some .push => left.notifyOne
  | _ => left

/-- Takes one item's work off the count. At zero, everyone who waits for that is notified. -/
def release (queue : Queue α) : Queue α :=
  let outstanding := queue.outstanding - 1
  let joiners := queue.joiners.map fun joiner =>
    if outstanding = 0 then { joiner with notified := true } else joiner
  { queue with outstanding, joiners }

def markDone? (queue : Queue α) : Option (Queue α) :=
  if queue.outstanding = 0 then none else some queue.release

def overdrawnMessage : String := "mark_done called more times than push"

def join (queue : Queue α) : Queue α × Joined :=
  if queue.outstanding = 0 then (queue, .joined)
  else
    let ticket := queue.nextTicket
    ({ queue with joiners := queue.joiners ++ [⟨ticket, false⟩], nextTicket := ticket + 1 },
      .pending ticket)

def joiner? (queue : Queue α) (ticket : Nat) : Option Joiner :=
  queue.joiners.find? (·.ticket = ticket)

def abandonJoin (queue : Queue α) (ticket : Nat) : Queue α :=
  { queue with joiners := queue.joiners.filter (·.ticket ≠ ticket) }

def resumeJoin (queue : Queue α) (ticket : Nat) : Queue α × Joined :=
  match queue.joiner? ticket with
  | none => (queue, .pending ticket)
  | some joiner =>
    if joiner.notified then (queue.abandonJoin ticket).join else (queue, .pending ticket)

/-- Ends the queue: everyone who waits for an item is notified, and nobody will wait again. -/
def close (queue : Queue α) : Queue α :=
  let consumers := queue.consumers.map fun consumer =>
    if consumer.notice.isNone then { consumer with notice := some .close } else consumer
  { queue with closed := true, consumers }

end Queue

end PageLoad.Work

import PageLoad.Proofs.Work.Barrier

/-!
A queue loses nothing and hands out nothing twice, whoever waits for an item, gives up waiting or is
overtaken: what it has handed out and what it still holds is what has been pushed, in the same order. Its
count goes up with each push and down with each piece of work that is marked as done, by hand or by a guard
that is dropped. Marking more than has been pushed is refused, and then it is as if it had not been tried.
-/

namespace PageLoad.Work

def Operation.pushed? {α : Type} : Operation α → Option α
  | .push item => some item
  | _ => none

namespace Queue

variable {α : Type}

def Asks (queue : Queue α) (operation : Operation α) : Prop :=
  operation = .pop ∨ ∃ ticket, queue.isCalled ticket = true ∧ operation = .resumePop ticket

def settled (operations : List (Operation α)) (answers : List (Answer α)) : Nat :=
  (operations.zip answers).countP fun done => done.1.settles done.2

theorem settled_cons (operation : Operation α) (answer : Answer α) (operations : List (Operation α))
    (answers : List (Answer α)) :
    settled (operation :: operations) (answer :: answers) =
      (operation.settles answer).toNat + settled operations answers := by
  rw [settled, List.zip_cons_cons, List.countP_cons, Nat.add_comm]
  cases operation.settles answer <;> rfl

/-! One thing that is done. -/

theorem perform_keeps (queue : Queue α) (operation : Operation α) :
    queue.items ++ operation.pushed?.toList =
      (queue.perform operation).2.item?.toList ++ (queue.perform operation).1.items := by
  cases operation with
  | push item => exact (push_items queue item).symm
  | _ => exact (List.append_nil _).trans (perform_items queue nofun)

theorem perform_counts (queue : Queue α) (operation : Operation α) :
    queue.outstanding + operation.pushed?.toList.length =
      (queue.perform operation).1.outstanding + (operation.settles (queue.perform operation).2).toNat := by
  cases operation with
  | push item => exact (push_outstanding queue item).symm
  | _ => exact perform_outstanding queue nofun

theorem pop_closed_iff (queue : Queue α) :
    queue.pop.2 = .closed ↔ queue.closed = true ∧ queue.items = [] := by
  obtain ⟨item, rest, items, taken⟩ | ⟨items, closed, taken⟩ | ⟨items, opened, taken⟩ := queue.pop_cases
  · simp [taken, items]
  · simp [taken, items, closed]
  · simp [taken, opened]

theorem perform_closed_iff (queue : Queue α) (operation : Operation α) :
    (queue.perform operation).2 = .taken .closed ↔
      queue.Asks operation ∧ queue.closed = true ∧ queue.items = [] := by
  cases operation with
  | pop => simp [perform, Asks, pop_closed_iff]
  | resumePop ticket =>
    cases called : queue.isCalled ticket with
    | true =>
      obtain ⟨_, _, _, resumed⟩ := resumePop_of_isCalled called
      have asks : queue.Asks (.resumePop ticket) := .inr ⟨ticket, called, rfl⟩
      rw [perform, resumed, Answer.taken.injEq, pop_closed_iff, and_iff_right asks]
      rfl
    | false => simp [perform, Asks, resumePop_of_not_isCalled called, called]
  | markDone =>
    obtain ⟨_, marked⟩ | ⟨_, marked⟩ := queue.perform_markDone_cases <;> simp [marked, Asks]
  | _ => simp [perform, Asks]

/-- More than has been pushed cannot be marked as done, and trying to changes nothing. -/
theorem perform_overdrawn_iff (queue : Queue α) (operation : Operation α) :
    (queue.perform operation).2 = .overdrawn ↔ operation = .markDone ∧ queue.outstanding = 0 := by
  cases operation with
  | markDone =>
    obtain ⟨busy, marked⟩ | ⟨idle, marked⟩ := queue.perform_markDone_cases
    · simp [marked, busy]
    · simp [marked, idle]
  | _ => simp [perform]

theorem perform_markDone_of_idle {queue : Queue α} (idle : queue.outstanding = 0) :
    queue.perform .markDone = (queue, .overdrawn) := by
  obtain ⟨busy, _⟩ | ⟨_, marked⟩ := queue.perform_markDone_cases
  · exact absurd idle busy
  · exact marked

/-! One thing after another. -/

theorem performAll_cons (queue : Queue α) (operation : Operation α) (rest : List (Operation α)) :
    queue.performAll (operation :: rest) =
      (((queue.perform operation).1.performAll rest).1,
        (queue.perform operation).2 :: ((queue.perform operation).1.performAll rest).2) := rfl

theorem performAll_keeps (queue : Queue α) (operations : List (Operation α)) :
    queue.items ++ operations.filterMap (·.pushed?) =
      (queue.performAll operations).2.filterMap (·.item?) ++ (queue.performAll operations).1.items := by
  simp only [List.filterMap_eq_flatMap_toList]
  induction operations generalizing queue with
  | nil => exact List.append_nil _
  | cons operation rest ih =>
    have first := queue.perform_keeps operation
    have others := ih (queue.perform operation).1
    rw [performAll_cons, List.flatMap_cons, List.flatMap_cons, ← List.append_assoc, first, List.append_assoc,
      others, List.append_assoc]

theorem performAll_counts (queue : Queue α) (operations : List (Operation α)) :
    queue.outstanding + (operations.filterMap (·.pushed?)).length =
      (queue.performAll operations).1.outstanding + settled operations (queue.performAll operations).2 := by
  simp only [List.filterMap_eq_flatMap_toList]
  induction operations generalizing queue with
  | nil => rfl
  | cons operation rest ih =>
    have first := queue.perform_counts operation
    have others := ih (queue.perform operation).1
    simp only [performAll_cons, settled_cons, List.flatMap_cons, List.length_append]
    omega

theorem performAll_answers_append (queue : Queue α) (before after : List (Operation α)) :
    (queue.performAll (before ++ after)).2 =
      (queue.performAll before).2 ++ ((queue.performAll before).1.performAll after).2 := by
  induction before generalizing queue with
  | nil => rfl
  | cons operation rest ih =>
    exact congrArg ((queue.perform operation).2 :: ·) (ih (queue.perform operation).1)

structure Conserves (operations : List (Operation α)) : Prop where
  /-- Items are handed out in the order in which they are pushed, each once. -/
  items : (empty.performAll operations).2.filterMap (·.item?) ++ (afterAll operations).items =
    operations.filterMap (·.pushed?)
  closed : ∀ operation, ((afterAll operations).perform operation).2 = .taken .closed ↔
    (afterAll operations).Asks operation ∧ (afterAll operations).closed = true ∧
      (afterAll operations).items = []
  outstanding : (afterAll operations).outstanding + settled operations (empty.performAll operations).2 =
    (operations.filterMap (·.pushed?)).length
  overdrawn : ∀ operation, ((afterAll operations).perform operation).2 = .overdrawn ↔
    operation = .markDone ∧ (afterAll operations).outstanding = 0
  /-- What is refused changes neither the queue nor any later answer. -/
  refused : (afterAll operations).outstanding = 0 →
    ((afterAll operations).perform .markDone).1 = afterAll operations ∧
    ∀ more, afterAll (operations ++ .markDone :: more) = afterAll (operations ++ more) ∧
      (empty.performAll (operations ++ .markDone :: more)).2 =
        (empty.performAll operations).2 ++ .overdrawn :: ((afterAll operations).performAll more).2

/-- Whatever is done with a new queue, it neither loses an item nor hands one out twice or out of turn; it
says that it is closed only when it is and holds nothing; its count is that of the items pushed less that of
the work marked as done; and marking more than that is refused without a trace. -/
theorem conserves (operations : List (Operation α)) : Conserves operations where
  items := (performAll_keeps empty operations).symm
  closed := (afterAll operations).perform_closed_iff
  outstanding := by
    rw [← Nat.zero_add (operations.filterMap _).length]
    exact (performAll_counts empty operations).symm
  overdrawn := (afterAll operations).perform_overdrawn_iff
  refused := by
    intro idle
    have refused := perform_markDone_of_idle idle
    refine ⟨by rw [refused], fun more => ⟨?_, ?_⟩⟩
    · rw [afterAll_append, afterAll_append, performAll_cons, refused]
    · rw [performAll_answers_append]
      rw [afterAll] at refused ⊢
      rw [performAll_cons, refused]

end Queue

end PageLoad.Work

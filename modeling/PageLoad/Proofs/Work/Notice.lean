import PageLoad.Proofs.Work.Queue
import PageLoad.Work.Operation

/-!
Nobody waits for an item that is there to take, whatever those who share a queue do with it and in
whatever order: the invariant of the queue is kept by every operation, those among them by which a
consumer gives up waiting.
-/

namespace PageLoad.Work

def Answer.item? {α : Type} : Answer α → Option α
  | .taken answer => answer.item?
  | .done | .overdrawn | .joined _ => none

def Operation.settles {α : Type} : Operation α → Answer α → Bool
  | .markDone, .done => true
  | _, _ => false

namespace Queue

variable {α : Type} {queue : Queue α}

/-! Asking again or giving up, whether or not there is a notice. -/

theorem removeConsumer_of_absent {ticket : Nat} (absent : queue.consumer? ticket = none) :
    queue.removeConsumer ticket = queue := by
  have others : queue.consumers.filter (·.ticket ≠ ticket) = queue.consumers := by
    rw [List.filter_eq_self]
    intro consumer member
    simpa using List.find?_eq_none.mp absent consumer member
  rw [removeConsumer, others]

theorem removeConsumer_sound_of_uncalled (sound : queue.Sound 0) {ticket : Nat} {consumer : Consumer}
    (found : queue.consumer? ticket = some consumer) (uncalled : consumer.notice ≠ some .push) :
    (queue.removeConsumer ticket).Sound 0 := by
  obtain ⟨before, after, split, _, left⟩ := removeConsumer_split sound found
  have same : (queue.removeConsumer ticket).calls = queue.calls := by
    rw [calls, calls, split, left, List.countP_append, List.countP_append,
      List.countP_cons_of_neg (by simpa using uncalled)]
  refine { removeConsumer_sound sound found with awake := ?_ }
  intro other member idle
  obtain ⟨opened, bare, few⟩ := sound.awake other (List.mem_of_mem_filter member) idle
  exact ⟨opened, bare, by rw [same]; exact few⟩

theorem abandonPop_sound (sound : queue.Sound 0) (ticket : Nat) :
    (queue.abandonPop ticket).Sound 0 := by
  rw [abandonPop]
  cases found : queue.consumer? ticket with
  | none =>
    rw [removeConsumer_of_absent found]
    exact sound
  | some consumer =>
    rw [Option.bind_some]
    cases notice : consumer.notice with
    | none => exact removeConsumer_sound_of_uncalled sound found (by simp [notice])
    | some reason =>
      cases reason with
      | push => exact notifyOne_sound (removeConsumer_sound sound found)
      | close => exact removeConsumer_sound_of_uncalled sound found (by simp [notice])

theorem resumePop_of_not_isCalled {ticket : Nat} (uncalled : queue.isCalled ticket = false) :
    queue.resumePop ticket = (queue, .pending ticket) := by
  rw [resumePop]
  cases found : queue.consumer? ticket with
  | none => rfl
  | some consumer =>
    have asleep : consumer.notice.isNone = true := by
      simpa [isCalled, found] using uncalled
    exact if_pos asleep

theorem resumeJoin_of_not_isReleased {ticket : Nat} (unreleased : queue.isReleased ticket = false) :
    queue.resumeJoin ticket = (queue, .pending ticket) := by
  rw [resumeJoin]
  cases found : queue.joiner? ticket with
  | none => rfl
  | some joiner =>
    have asleep : joiner.notified = false := by
      simpa [isReleased, found] using unreleased
    simp [asleep]

theorem perform_markDone_cases (queue : Queue α) :
    (queue.outstanding ≠ 0 ∧ queue.perform .markDone = (queue.release, .done)) ∨
      (queue.outstanding = 0 ∧ queue.perform .markDone = (queue, .overdrawn)) := by
  by_cases idle : queue.outstanding = 0
  · exact .inr ⟨idle, by simp [perform, markDone?, idle]⟩
  · exact .inl ⟨idle, by simp [perform, markDone?, idle]⟩

/-! What any operation keeps. -/

theorem perform_sound (sound : queue.Sound 0) (operation : Operation α) :
    (queue.perform operation).1.Sound 0 := by
  cases operation with
  | push item => exact push_sound sound item
  | pop => exact pop_sound sound.loosen
  | resumePop ticket =>
    cases called : queue.isCalled ticket with
    | true => exact resumePop_sound sound called
    | false =>
      rw [perform, resumePop_of_not_isCalled called]
      exact sound
  | abandonPop ticket => exact abandonPop_sound sound ticket
  | markDone =>
    obtain ⟨_, marked⟩ | ⟨_, marked⟩ := queue.perform_markDone_cases
    · rw [marked]
      exact release_sound sound
    · rw [marked]
      exact sound
  | join => exact join_sound sound
  | resumeJoin ticket =>
    cases released : queue.isReleased ticket with
    | true =>
      rw [perform, resumeJoin_of_isReleased released]
      exact join_sound (abandonJoin_sound sound ticket)
    | false =>
      rw [perform, resumeJoin_of_not_isReleased released]
      exact sound
  | abandonJoin ticket => exact abandonJoin_sound sound ticket
  | close => exact close_sound sound

theorem performAll_sound (sound : queue.Sound 0) (operations : List (Operation α)) :
    (queue.performAll operations).1.Sound 0 := by
  induction operations generalizing queue with
  | nil => exact sound
  | cons operation rest ih => exact ih (perform_sound sound operation)

theorem perform_items (queue : Queue α) {operation : Operation α}
    (apart : ∀ item, operation ≠ .push item) :
    queue.items = (queue.perform operation).2.item?.toList ++ (queue.perform operation).1.items := by
  cases operation with
  | push item => exact absurd rfl (apart item)
  | pop => exact pop_items queue
  | resumePop ticket =>
    cases called : queue.isCalled ticket with
    | true =>
      obtain ⟨_, _, _, resumed⟩ := resumePop_of_isCalled called
      rw [perform, resumed]
      exact pop_items (queue.removeConsumer ticket)
    | false =>
      rw [perform, resumePop_of_not_isCalled called]
      rfl
  | abandonPop ticket =>
    simp only [perform, abandonPop]
    split <;> simp [Answer.item?, removeConsumer]
  | markDone =>
    obtain ⟨_, marked⟩ | ⟨_, marked⟩ := queue.perform_markDone_cases
    · rw [marked]
      rfl
    · rw [marked]
      rfl
  | join => simp [perform, Answer.item?]
  | resumeJoin ticket =>
    cases released : queue.isReleased ticket with
    | true => simp [perform, resumeJoin_of_isReleased released, Answer.item?, abandonJoin]
    | false => simp [perform, resumeJoin_of_not_isReleased released, Answer.item?]
  | abandonJoin ticket => rfl
  | close => rfl

theorem perform_outstanding (queue : Queue α) {operation : Operation α}
    (apart : ∀ item, operation ≠ .push item) :
    queue.outstanding = (queue.perform operation).1.outstanding +
      (operation.settles (queue.perform operation).2).toNat := by
  cases operation with
  | push item => exact absurd rfl (apart item)
  | pop => simp [perform, Operation.settles]
  | resumePop ticket =>
    cases called : queue.isCalled ticket with
    | true =>
      obtain ⟨_, _, _, resumed⟩ := resumePop_of_isCalled called
      simp [perform, Operation.settles, resumed, removeConsumer]
    | false => simp [perform, Operation.settles, resumePop_of_not_isCalled called]
  | abandonPop ticket =>
    simp only [perform, abandonPop]
    split <;> simp [Operation.settles, removeConsumer]
  | markDone =>
    obtain ⟨busy, marked⟩ | ⟨_, marked⟩ := queue.perform_markDone_cases
    · rw [marked]
      exact (Nat.succ_pred_eq_of_ne_zero busy).symm
    · simp [marked, Operation.settles]
  | join => simp [perform, Operation.settles]
  | resumeJoin ticket =>
    cases released : queue.isReleased ticket with
    | true => simp [perform, Operation.settles, resumeJoin_of_isReleased released, abandonJoin]
    | false => simp [perform, Operation.settles, resumeJoin_of_not_isReleased released]
  | abandonJoin ticket => rfl
  | close => rfl

theorem perform_closed (queue : Queue α) (operation : Operation α) :
    (queue.perform operation).1.closed = true ↔ operation = .close ∨ queue.closed = true := by
  cases operation with
  | push item => simp [perform]
  | pop => simp [perform]
  | resumePop ticket =>
    cases called : queue.isCalled ticket with
    | true =>
      obtain ⟨_, _, _, resumed⟩ := resumePop_of_isCalled called
      simp [perform, resumed, removeConsumer]
    | false => simp [perform, resumePop_of_not_isCalled called]
  | abandonPop ticket =>
    simp only [perform, abandonPop]
    split <;> simp [removeConsumer]
  | markDone =>
    obtain ⟨_, marked⟩ | ⟨_, marked⟩ := queue.perform_markDone_cases
    · simp [marked, release]
    · simp [marked]
  | join => simp [perform]
  | resumeJoin ticket =>
    cases released : queue.isReleased ticket with
    | true => simp [perform, resumeJoin_of_isReleased released, abandonJoin]
    | false => simp [perform, resumeJoin_of_not_isReleased released]
  | abandonJoin ticket => simp [perform, abandonJoin]
  | close => simp [perform, close]

theorem performAll_closed (queue : Queue α) (operations : List (Operation α)) :
    (queue.performAll operations).1.closed = true ↔ .close ∈ operations ∨ queue.closed = true := by
  induction operations generalizing queue with
  | nil => simp [performAll]
  | cons operation rest ih =>
    rw [performAll, ih, perform_closed, List.mem_cons]
    tauto

/-- Whatever has been done with a queue: as long as someone waits without notice, the queue is open,
no permit has been left behind, and each item is matched by a notice of a push that has not been used
yet. So there is nothing to take when all of those who wait do so without notice, and nobody waits
without notice once the queue has been closed. -/
theorem no_lost_notice (operations : List (Operation α)) :
    (∀ consumer ∈ (afterAll operations).consumers, consumer.notice = none →
      (afterAll operations).closed = false ∧ (afterAll operations).permit = false ∧
      (afterAll operations).items.length ≤ (afterAll operations).calls) ∧
    ((afterAll operations).consumers ≠ [] →
      (∀ consumer ∈ (afterAll operations).consumers, consumer.notice = none) →
      (afterAll operations).items = []) ∧
    (.close ∈ operations → ∀ consumer ∈ (afterAll operations).consumers, consumer.notice ≠ none) := by
  have sound : (afterAll operations).Sound 0 := performAll_sound sound_empty operations
  refine ⟨?_, ?_, ?_⟩
  · intro consumer member asleep
    exact sound.awake consumer member asleep
  · exact items_eq_nil_of_asleep sound
  · intro closing consumer member asleep
    have closed : (afterAll operations).closed = true :=
      (performAll_closed empty operations).mpr (.inl closing)
    have ⟨opened, _, _⟩ := sound.awake consumer member asleep
    rw [opened] at closed
    cases closed

/-- Two consumers wait, and an item is pushed: the second goes on waiting, because the notice that
the first has is there for the item. -/
theorem no_lost_notice_two_consumers :
    ⟨1, none⟩ ∈ (afterAll [.pop, .pop, .push "a"]).consumers ∧
      (afterAll [.pop, .pop, .push "a"]).items = ["a"] ∧
      (afterAll [.pop, .pop, .push "a"]).permit = false ∧
      (afterAll [.pop, .pop, .push "a"]).items.length ≤ (afterAll [.pop, .pop, .push "a"]).calls := by
  have waits : ⟨1, none⟩ ∈ (afterAll [.pop, .pop, .push "a"]).consumers := by decide
  have ⟨_, bare, few⟩ := (no_lost_notice [.pop, .pop, .push "a"]).1 _ waits rfl
  exact ⟨waits, rfl, bare, few⟩

end Queue

end PageLoad.Work

import PageLoad.Proofs.Work.Crew

/-!
A crew in which only the first worker does anything: it takes the items in order.
-/

namespace PageLoad.Work

variable {State Item Job α : Type}

/-- A queue that nobody waits for is the same as another, apart from the permit, which nobody is
there to take. -/
structure Queue.Mirrors (queue model : Queue α) : Prop where
  same : ∃ permit, queue = { model with permit }
  alone : model.consumers = []

namespace Queue.Mirrors

variable {queue model : Queue α}

theorem items (mirrors : queue.Mirrors model) : queue.items = model.items := by
  obtain ⟨permit, rfl⟩ := mirrors.same
  rfl

theorem push (mirrors : queue.Mirrors model) (item : α) : (queue.push item).Mirrors (model.push item) := by
  obtain ⟨permit, rfl⟩ := mirrors.same
  refine ⟨⟨true, ?_⟩, ?_⟩ <;> simp [Queue.push, notifyOne, mirrors.alone, notifyFirst]

theorem release (mirrors : queue.Mirrors model) : queue.release.Mirrors model.release := by
  obtain ⟨permit, rfl⟩ := mirrors.same
  exact ⟨⟨permit, rfl⟩, mirrors.alone⟩

theorem take (mirrors : queue.Mirrors model) (rest : List α) :
    Mirrors { queue with permit := false, items := rest } { model with items := rest } := by
  obtain ⟨permit, rfl⟩ := mirrors.same
  exact ⟨⟨false, rfl⟩, mirrors.alone⟩

end Queue.Mirrors

theorem Crew.reaches_closing (trade : Trade State Item Job) {state : State} (stages : List (Stage Job))
    (done : (trade.queue state).outstanding = 0) :
    Reaches trade ⟨state, stages, .joining⟩
      ⟨trade.withQueue state (trade.queue state), stages, .closing⟩ := by
  refine ⟨[.overseer], ?_⟩
  obtain ⟨_, joined⟩ | ⟨busy, _⟩ := (trade.queue state).join_cases
  · simp [run?, step?, Watch.turn, Watch.ofJoined, joined]
  · exact absurd done busy

end PageLoad.Work

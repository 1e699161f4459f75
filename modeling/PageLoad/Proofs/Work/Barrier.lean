import PageLoad.Proofs.Work.Notice
import Mathlib.Data.List.Induction

/-!
Whoever waits for the work to be done is told so at the first moment at which there is none left, and
not before. Being told is not enough to go on: who asks again and finds that there is work again waits
for the next such moment.
-/

namespace PageLoad.Work

def Joiner.IsLeaving {α : Type} (joiner : Joiner) (operation : Operation α) : Prop :=
  operation = .abandonJoin joiner.ticket ∨
    (operation = .resumeJoin joiner.ticket ∧ joiner.notified = true)

def Joiner.told (joiner : Joiner) (count : Nat) : Joiner :=
  ⟨joiner.ticket, joiner.notified || decide (count = 0)⟩

namespace Queue

variable {α : Type} {queue : Queue α}

/-- An operation by which someone looks whether the work is done. Who waits does not look before being
told. -/
def Looks (queue : Queue α) (operation : Operation α) : Prop :=
  operation = .join ∨
    ∃ joiner ∈ queue.joiners, joiner.notified = true ∧ operation = .resumeJoin joiner.ticket

/-- Someone looks whether the work is done, finds that it is not, and waits with a ticket from then on. -/
structure Awaits (queue : Queue α) (operation : Operation α) (ticket : Nat) : Prop where
  looks : queue.Looks operation
  pending : (queue.perform operation).2 = .joined (.pending ticket)
  busy : queue.outstanding ≠ 0

/-! Looking at the count. -/

theorem joiner?_of_mem (sound : queue.Sound 0) {joiner : Joiner} (member : joiner ∈ queue.joiners) :
    queue.joiner? joiner.ticket = some joiner := by
  cases found : queue.joiner? joiner.ticket with
  | none => simpa using List.find?_eq_none.mp found joiner member
  | some other =>
    have same : other.ticket = joiner.ticket := by simpa using List.find?_some found
    exact congrArg some
      (List.inj_on_of_nodup_map sound.joinerDistinct (List.mem_of_find?_eq_some found) member same)

theorem isReleased_of_mem (sound : queue.Sound 0) {joiner : Joiner} (member : joiner ∈ queue.joiners) :
    queue.isReleased joiner.ticket = joiner.notified := by
  rw [isReleased, joiner?_of_mem sound member]
  rfl

theorem exists_of_isReleased {ticket : Nat} (released : queue.isReleased ticket = true) :
    ∃ joiner ∈ queue.joiners, joiner.ticket = ticket ∧ joiner.notified = true := by
  unfold isReleased at released
  obtain ⟨joiner, found, notified⟩ := (Option.any_eq_true _ _).mp released
  have same : joiner.ticket = ticket := by simpa using List.find?_some found
  exact ⟨joiner, List.mem_of_find?_eq_some found, same, notified⟩

theorem perform_of_looks (sound : queue.Sound 0) {operation : Operation α} (looks : queue.Looks operation) :
    ∃ left : Queue α, queue.perform operation = (left.join.1, .joined left.join.2) ∧
      left.outstanding = queue.outstanding ∧ left.nextTicket = queue.nextTicket ∧
      ∀ joiner, joiner ∈ left.joiners ↔ joiner ∈ queue.joiners ∧ ¬ joiner.IsLeaving operation := by
  rcases looks with rfl | ⟨joiner, member, notified, rfl⟩
  · exact ⟨queue, rfl, rfl, rfl, fun joiner => by simp [Joiner.IsLeaving]⟩
  · have released : queue.isReleased joiner.ticket = true := by
      rw [isReleased_of_mem sound member, notified]
    refine ⟨queue.abandonJoin joiner.ticket, ?_, rfl, rfl, fun other => ?_⟩
    · rw [perform, resumeJoin_of_isReleased released]
    · have told (present : other ∈ queue.joiners) (same : other.ticket = joiner.ticket) :
          other.notified = true := by
        rw [← isReleased_of_mem sound present, same, released]
      simp only [abandonJoin, List.mem_filter, decide_eq_true_eq, Joiner.IsLeaving,
        Operation.resumeJoin.injEq, reduceCtorEq, false_or]
      tauto

theorem not_looks_of_not_isReleased (sound : queue.Sound 0) {ticket : Nat}
    (unreleased : queue.isReleased ticket = false) : ¬ queue.Looks (.resumeJoin ticket) := by
  rintro (joining | ⟨joiner, member, notified, resuming⟩)
  · cases joining
  · obtain rfl := Operation.resumeJoin.inj resuming
    rw [isReleased_of_mem sound member, notified] at unreleased
    cases unreleased

theorem joined_iff (sound : queue.Sound 0) (operation : Operation α) :
    (queue.perform operation).2 = .joined .joined ↔ queue.Looks operation ∧ queue.outstanding = 0 := by
  constructor
  · intro joined
    have looks : queue.Looks operation := by
      cases operation with
      | join => exact .inl rfl
      | resumeJoin ticket =>
        cases released : queue.isReleased ticket with
        | true =>
          obtain ⟨joiner, member, rfl, notified⟩ := exists_of_isReleased released
          exact .inr ⟨joiner, member, notified, rfl⟩
        | false =>
          rw [perform, resumeJoin_of_not_isReleased released] at joined
          cases joined
      | markDone =>
        obtain ⟨_, marked⟩ | ⟨_, marked⟩ := queue.perform_markDone_cases
        · rw [marked] at joined
          cases joined
        · rw [marked] at joined
          cases joined
      | push item => cases joined
      | pop => cases joined
      | resumePop ticket => cases joined
      | abandonPop ticket => cases joined
      | abandonJoin ticket => cases joined
      | close => cases joined
    refine ⟨looks, ?_⟩
    obtain ⟨left, performs, same, _, _⟩ := perform_of_looks sound looks
    obtain ⟨idle, _⟩ | ⟨_, waits⟩ := left.join_cases
    · exact same ▸ idle
    · rw [performs, waits] at joined
      cases joined
  · rintro ⟨looks, idle⟩
    obtain ⟨left, performs, same, _, _⟩ := perform_of_looks sound looks
    obtain ⟨_, joined⟩ | ⟨busy, _⟩ := left.join_cases
    · rw [performs, joined]
    · exact absurd (same.trans idle) busy

theorem notified_of_idle (sound : queue.Sound 0) (idle : queue.outstanding = 0) {joiner : Joiner}
    (member : joiner ∈ queue.joiners) : joiner.notified = true := by
  by_contra asleep
  exact sound.unfinished joiner member (Bool.not_eq_true _ ▸ asleep) idle

/-! Who waits after an operation. -/

theorem told_of_mem (sound : queue.Sound 0) {joiner : Joiner} (member : joiner ∈ queue.joiners)
    {count : Nat} (still : count = 0 → queue.outstanding = 0) : joiner.told count = joiner := by
  cases notified : joiner.notified with
  | true => rw [Joiner.told, notified, Bool.true_or, ← notified]
  | false =>
    have busy : count ≠ 0 := fun zero => sound.unfinished joiner member notified (still zero)
    rw [Joiner.told, decide_eq_false busy, Bool.or_false]

/-- What an operation makes of those who wait: all of them stay who do not leave, being told if the count
comes to zero, and at most one comes in addition. -/
structure Gathers (queue : Queue α) (operation : Operation α) (joiners : List Joiner) (count : Nat) :
    Prop where
  stays : ∀ joiner ∈ queue.joiners, ¬ joiner.IsLeaving operation → joiner.told count ∈ joiners
  comes : ∀ later ∈ joiners,
    (∃ joiner ∈ queue.joiners, ¬ joiner.IsLeaving operation ∧ later = joiner.told count) ∨
      (queue.Awaits operation later.ticket ∧ later.notified = false)
  waits : ∀ ticket, queue.Awaits operation ticket → ⟨ticket, false⟩ ∈ joiners

theorem gathers_of_bystander (sound : queue.Sound 0) {operation : Operation α} {count : Nat}
    (apart : operation ≠ .join ∧ ∀ ticket, operation ≠ .resumeJoin ticket ∧ operation ≠ .abandonJoin ticket)
    (still : count = 0 → queue.outstanding = 0) : queue.Gathers operation queue.joiners count := by
  have stay (joiner : Joiner) : ¬ joiner.IsLeaving operation := by
    rintro (gone | ⟨gone, _⟩)
    · exact (apart.2 joiner.ticket).2 gone
    · exact (apart.2 joiner.ticket).1 gone
  refine ⟨?_, ?_, ?_⟩
  · intro joiner member _
    rw [told_of_mem sound member still]
    exact member
  · intro joiner member
    exact .inl ⟨joiner, member, stay joiner, (told_of_mem sound member still).symm⟩
  · rintro ticket ⟨joining | ⟨joiner, _, _, resuming⟩, _, _⟩
    · exact (apart.1 joining).elim
    · exact ((apart.2 joiner.ticket).1 resuming).elim

theorem gathers_release (queue : Queue α) :
    queue.Gathers .markDone queue.release.joiners queue.release.outstanding := by
  have told (joiner : Joiner) :
      (if queue.outstanding - 1 = 0 then { joiner with notified := true } else joiner) =
        joiner.told queue.release.outstanding := by
    unfold Joiner.told release
    split
    next zero => simp [zero]
    next more => simp [more]
  have stay (joiner : Joiner) : ¬ joiner.IsLeaving (.markDone : Operation α) := by
    rintro (gone | ⟨gone, _⟩) <;> cases gone
  refine ⟨?_, ?_, ?_⟩
  · intro joiner member _
    rw [← told]
    exact List.mem_map_of_mem member
  · intro later member
    obtain ⟨joiner, present, rfl⟩ := List.mem_map.mp member
    exact .inl ⟨joiner, present, stay joiner, told joiner⟩
  · rintro ticket ⟨joining | ⟨_, _, _, resuming⟩, _, _⟩
    · cases joining
    · cases resuming

theorem gathers_abandonJoin (sound : queue.Sound 0) (ticket : Nat) :
    queue.Gathers (.abandonJoin ticket) (queue.abandonJoin ticket).joiners queue.outstanding := by
  have others (joiner : Joiner) : joiner ∈ (queue.abandonJoin ticket).joiners ↔
      joiner ∈ queue.joiners ∧ ¬ joiner.IsLeaving (.abandonJoin ticket : Operation α) := by
    simp only [abandonJoin, List.mem_filter, decide_eq_true_eq, Joiner.IsLeaving,
      Operation.abandonJoin.injEq, reduceCtorEq, false_and, or_false]
    exact and_congr_right fun _ => ne_comm
  refine ⟨?_, ?_, ?_⟩
  · intro joiner member stay
    rw [told_of_mem sound member id]
    exact (others joiner).mpr ⟨member, stay⟩
  · intro joiner member
    obtain ⟨present, stay⟩ := (others joiner).mp member
    exact .inl ⟨joiner, present, stay, (told_of_mem sound present id).symm⟩
  · rintro _ ⟨joining | ⟨_, _, _, resuming⟩, _, _⟩
    · cases joining
    · cases resuming

theorem gathers_of_looks (sound : queue.Sound 0) {operation : Operation α} (looks : queue.Looks operation) :
    queue.Gathers operation (queue.perform operation).1.joiners queue.outstanding := by
  obtain ⟨left, performs, same, _, others⟩ := perform_of_looks sound looks
  have old (joiner : Joiner) (member : joiner ∈ left.joiners) :
      ∃ before ∈ queue.joiners, ¬ before.IsLeaving operation ∧ joiner = before.told queue.outstanding := by
    obtain ⟨present, stay⟩ := (others joiner).mp member
    exact ⟨joiner, present, stay, (told_of_mem sound present id).symm⟩
  have stays : ∀ joiner ∈ queue.joiners, ¬ joiner.IsLeaving operation →
      joiner.told queue.outstanding ∈ left.joiners := by
    intro joiner member stay
    rw [told_of_mem sound member id]
    exact (others joiner).mpr ⟨member, stay⟩
  rw [performs]
  obtain ⟨idle, joined⟩ | ⟨busy, joined⟩ := left.join_cases
  · rw [joined]
    refine ⟨stays, fun joiner member => .inl (old joiner member), ?_⟩
    rintro ticket ⟨_, _, busy⟩
    exact absurd (same ▸ idle) busy
  · rw [joined]
    refine ⟨fun joiner member stay => List.mem_append_left _ (stays joiner member stay), ?_, ?_⟩
    · intro joiner member
      rcases List.mem_append.mp member with before | new
      · exact .inl (old joiner before)
      · obtain rfl := List.mem_singleton.mp new
        exact .inr ⟨⟨looks, by rw [performs, joined], same ▸ busy⟩, rfl⟩
    · rintro ticket ⟨_, pending, _⟩
      rw [performs, joined] at pending
      obtain rfl := Joined.pending.inj (Answer.joined.inj pending)
      exact List.mem_append_right _ (List.mem_singleton_self _)

theorem gathers_resumeJoin (sound : queue.Sound 0) (ticket : Nat) :
    queue.Gathers (.resumeJoin ticket) (queue.perform (.resumeJoin ticket)).1.joiners queue.outstanding := by
  cases released : queue.isReleased ticket with
  | true =>
    obtain ⟨joiner, member, rfl, notified⟩ := exists_of_isReleased released
    exact gathers_of_looks sound (.inr ⟨joiner, member, notified, rfl⟩)
  | false =>
    have blind := not_looks_of_not_isReleased sound released
    rw [perform, resumeJoin_of_not_isReleased released]
    have stay (joiner : Joiner) (member : joiner ∈ queue.joiners) :
        ¬ joiner.IsLeaving (.resumeJoin ticket : Operation α) := by
      rintro (gone | ⟨resuming, notified⟩)
      · cases gone
      · exact blind (.inr ⟨joiner, member, notified, resuming⟩)
    refine ⟨?_, ?_, ?_⟩
    · intro joiner member _
      rw [told_of_mem sound member id]
      exact member
    · intro joiner member
      exact .inl ⟨joiner, member, stay joiner member, (told_of_mem sound member id).symm⟩
    · rintro _ ⟨looks, _, _⟩
      exact (blind looks).elim

theorem perform_gathers (sound : queue.Sound 0) (operation : Operation α) :
    queue.Gathers operation (queue.perform operation).1.joiners (queue.perform operation).1.outstanding := by
  have bystander {next : Queue α} (joiners : next.joiners = queue.joiners)
      (still : next.outstanding = 0 → queue.outstanding = 0)
      (apart : operation ≠ .join ∧
        ∀ ticket, operation ≠ .resumeJoin ticket ∧ operation ≠ .abandonJoin ticket) :
      queue.Gathers operation next.joiners next.outstanding := by
    rw [joiners]
    exact gathers_of_bystander sound apart still
  cases operation with
  | push item =>
    exact bystander (push_joiners queue item) (by simp [perform]) (by simp)
  | pop => exact bystander (by simp [perform]) (by simp [perform]) (by simp)
  | resumePop ticket =>
    refine bystander ?_ ?_ (by simp)
    all_goals
      cases called : queue.isCalled ticket with
      | true =>
        obtain ⟨_, _, _, resumed⟩ := resumePop_of_isCalled called
        simp [perform, resumed, removeConsumer]
      | false => simp [perform, resumePop_of_not_isCalled called]
  | abandonPop ticket =>
    refine bystander ?_ ?_ (by simp)
    all_goals
      simp only [perform, abandonPop]
      split <;> simp [removeConsumer]
  | markDone =>
    obtain ⟨_, marked⟩ | ⟨_, marked⟩ := queue.perform_markDone_cases
    · rw [marked]
      exact gathers_release queue
    · rw [marked]
      exact bystander rfl id (by simp)
  | join =>
    have same : (queue.perform .join).1.outstanding = queue.outstanding := join_outstanding queue
    rw [same]
    exact gathers_of_looks sound (.inl rfl)
  | resumeJoin ticket =>
    have same : (queue.perform (.resumeJoin ticket)).1.outstanding = queue.outstanding := by
      cases released : queue.isReleased ticket with
      | true => simp [perform, resumeJoin_of_isReleased released, abandonJoin]
      | false => simp [perform, resumeJoin_of_not_isReleased released]
    rw [same]
    exact gathers_resumeJoin sound ticket
  | abandonJoin ticket => exact gathers_abandonJoin sound ticket
  | close => exact bystander rfl id (by simp)

/-! Tickets are handed out once. -/

theorem Awaits.ticket_eq (sound : queue.Sound 0) {operation : Operation α} {ticket : Nat}
    (awaits : queue.Awaits operation ticket) : ticket = queue.nextTicket := by
  obtain ⟨left, performs, _, next, _⟩ := perform_of_looks sound awaits.looks
  have pending := awaits.pending
  rw [performs] at pending
  obtain ⟨_, joined⟩ | ⟨_, joined⟩ := left.join_cases
  · rw [joined] at pending
    cases pending
  · rw [joined] at pending
    obtain rfl := Joined.pending.inj (Answer.joined.inj pending)
    exact next

theorem exists_awaits_of_looks (sound : queue.Sound 0) {operation : Operation α}
    (looks : queue.Looks operation) (busy : queue.outstanding ≠ 0) :
    ∃ ticket, queue.Awaits operation ticket := by
  obtain ⟨left, performs, same, _, _⟩ := perform_of_looks sound looks
  obtain ⟨idle, _⟩ | ⟨_, joined⟩ := left.join_cases
  · exact absurd (same ▸ idle) busy
  · exact ⟨left.nextTicket, looks, by rw [performs, joined], busy⟩

theorem pop_nextTicket_le (queue : Queue α) : queue.nextTicket ≤ queue.pop.1.nextTicket := by
  obtain ⟨_, _, _, taken⟩ | ⟨_, _, taken⟩ | ⟨_, _, taken⟩ := queue.pop_cases <;> simp [taken]

theorem join_nextTicket_le (queue : Queue α) : queue.nextTicket ≤ queue.join.1.nextTicket := by
  obtain ⟨_, joined⟩ | ⟨_, joined⟩ := queue.join_cases <;> simp [joined]

theorem perform_nextTicket_le (queue : Queue α) (operation : Operation α) :
    queue.nextTicket ≤ (queue.perform operation).1.nextTicket := by
  cases operation with
  | push item => simp [perform, push]
  | pop => exact pop_nextTicket_le queue
  | resumePop ticket =>
    cases called : queue.isCalled ticket with
    | true =>
      obtain ⟨_, _, _, resumed⟩ := resumePop_of_isCalled called
      rw [perform, resumed]
      exact pop_nextTicket_le (queue.removeConsumer ticket)
    | false => simp [perform, resumePop_of_not_isCalled called]
  | abandonPop ticket =>
    simp only [perform, abandonPop]
    split <;> simp [removeConsumer]
  | markDone =>
    obtain ⟨_, marked⟩ | ⟨_, marked⟩ := queue.perform_markDone_cases
    · rw [marked]
      exact Nat.le_refl _
    · simp [marked]
  | join => exact join_nextTicket_le queue
  | resumeJoin ticket =>
    cases released : queue.isReleased ticket with
    | true =>
      rw [perform, resumeJoin_of_isReleased released]
      exact join_nextTicket_le (queue.abandonJoin ticket)
    | false => simp [perform, resumeJoin_of_not_isReleased released]
  | abandonJoin ticket => exact Nat.le_refl _
  | close => exact Nat.le_refl _

/-! One thing after another. -/

theorem performAll_append (queue : Queue α) (before after : List (Operation α)) :
    (queue.performAll (before ++ after)).1 = ((queue.performAll before).1.performAll after).1 := by
  induction before generalizing queue with
  | nil => rfl
  | cons operation rest ih => exact ih (queue.perform operation).1

theorem performAll_concat (queue : Queue α) (before : List (Operation α)) (last : Operation α) :
    (queue.performAll (before ++ [last])).1 = ((queue.performAll before).1.perform last).1 :=
  performAll_append queue before [last]

theorem afterAll_append (before after : List (Operation α)) :
    afterAll (before ++ after) = ((afterAll before).performAll after).1 :=
  performAll_append empty before after

theorem afterAll_concat (before : List (Operation α)) (last : Operation α) :
    afterAll (before ++ [last]) = ((afterAll before).perform last).1 :=
  performAll_concat empty before last

theorem afterAll_cons (before : List (Operation α)) (operation : Operation α)
    (after : List (Operation α)) :
    afterAll (before ++ operation :: after) = ((afterAll (before ++ [operation])).performAll after).1 := by
  rw [← afterAll_append, List.append_assoc]
  rfl

theorem afterAll_sound (operations : List (Operation α)) : (afterAll operations).Sound 0 :=
  performAll_sound sound_empty operations

theorem performAll_nextTicket_le (queue : Queue α) (operations : List (Operation α)) :
    queue.nextTicket ≤ (queue.performAll operations).1.nextTicket := by
  induction operations generalizing queue with
  | nil => exact Nat.le_refl _
  | cons operation rest ih =>
    exact Nat.le_trans (perform_nextTicket_le queue operation) (ih (queue.perform operation).1)

theorem performAll_idle {operations : List (Operation α)} (idle : queue.outstanding = 0)
    (pushless : ∀ item, .push item ∉ operations) :
    (queue.performAll operations).1.outstanding = 0 := by
  induction operations generalizing queue with
  | nil => exact idle
  | cons operation rest ih =>
    have none : ∀ item, operation ≠ .push item :=
      fun item same => pushless item (same ▸ List.mem_cons_self)
    have still : (queue.perform operation).1.outstanding = 0 := by
      have counted := perform_outstanding queue none
      omega
    exact ih still fun item member => pushless item (List.mem_cons_of_mem _ member)

/-! From one zero of the count to the next. -/

def StaysBusy (queue : Queue α) (operations : List (Operation α)) : Prop :=
  ∀ early, early <+: operations → (queue.performAll early).1.outstanding ≠ 0

theorem staysBusy_nil : queue.StaysBusy [] ↔ queue.outstanding ≠ 0 := by
  simp [StaysBusy, performAll]

theorem staysBusy_concat (operations : List (Operation α)) (last : Operation α) :
    queue.StaysBusy (operations ++ [last]) ↔
      queue.StaysBusy operations ∧ (queue.performAll (operations ++ [last])).1.outstanding ≠ 0 := by
  simp only [StaysBusy, List.prefix_concat_iff]
  constructor
  · intro busy
    exact ⟨fun early within => busy early (.inr within), busy _ (.inl rfl)⟩
  · rintro ⟨busy, lastBusy⟩ early (rfl | within)
    · exact lastBusy
    · exact busy early within

/-- Who has found work left, and has not been told since, is told exactly when there is none for once. -/
theorem notified_iff_of_performAll (sound : queue.Sound 0) {ticket : Nat} (old : ticket < queue.nextTicket)
    (asleep : ∀ joiner ∈ queue.joiners, joiner.ticket = ticket → joiner.notified = false)
    (busy : queue.outstanding ≠ 0) (operations : List (Operation α)) :
    ∀ joiner ∈ (queue.performAll operations).1.joiners, joiner.ticket = ticket →
      (joiner.notified = false ↔ queue.StaysBusy operations) := by
  induction operations using List.reverseRecOn with
  | nil =>
    intro joiner member same
    exact iff_of_true (asleep joiner member same) (staysBusy_nil.mpr busy)
  | append_singleton operations last ih =>
    intro later member same
    rw [staysBusy_concat, performAll_concat]
    rw [performAll_concat] at member
    have before := performAll_sound sound operations
    rcases (perform_gathers before last).comes later member with
      ⟨joiner, present, _, rfl⟩ | ⟨awaits, _⟩
    · rw [← ih joiner present same, Joiner.told, Bool.or_eq_false_iff, decide_eq_false_iff_not]
    · have fresh := awaits.ticket_eq before
      have grown := performAll_nextTicket_le queue operations
      omega

theorem exists_awaits (operations : List (Operation α)) :
    ∀ joiner ∈ (afterAll operations).joiners, ∃ before operation after,
      operations = before ++ operation :: after ∧ (afterAll before).Awaits operation joiner.ticket := by
  induction operations using List.reverseRecOn with
  | nil =>
    intro joiner member
    cases member
  | append_singleton operations last ih =>
    intro later member
    rw [afterAll_concat] at member
    rcases (perform_gathers (afterAll_sound operations) last).comes later member with
      ⟨joiner, present, _, rfl⟩ | ⟨awaits, _⟩
    · obtain ⟨before, operation, after, rfl, awaits⟩ := ih joiner present
      exact ⟨before, operation, after ++ [last], by simp, awaits⟩
    · exact ⟨operations, last, [], rfl, awaits⟩

theorem Awaits.outstanding_eq (sound : queue.Sound 0) {operation : Operation α} {ticket : Nat}
    (awaits : queue.Awaits operation ticket) :
    (queue.perform operation).1.outstanding = queue.outstanding := by
  obtain ⟨left, performs, same, _, _⟩ := perform_of_looks sound awaits.looks
  rw [performs, join_outstanding, same]

/-- Who waits and has not been told goes on waiting until told, or until giving up. -/
theorem mem_performAll_of_asleep (sound : queue.Sound 0) {ticket : Nat}
    (member : ⟨ticket, false⟩ ∈ queue.joiners) {operations : List (Operation α)}
    (patient : .abandonJoin ticket ∉ operations) (busy : queue.StaysBusy operations) :
    ⟨ticket, false⟩ ∈ (queue.performAll operations).1.joiners := by
  induction operations using List.reverseRecOn with
  | nil => exact member
  | append_singleton operations last ih =>
    obtain ⟨early, lastBusy⟩ := (staysBusy_concat operations last).mp busy
    rw [performAll_concat] at lastBusy ⊢
    have stays : ¬ Joiner.IsLeaving ⟨ticket, false⟩ last := by
      rintro (rfl | ⟨_, told⟩)
      · simp at patient
      · cases told
    have present := ih (fun gone => patient (List.mem_append_left _ gone)) early
    have waits := (perform_gathers (performAll_sound sound operations) last).stays _ present stays
    simpa only [Joiner.told, decide_eq_false lastBusy, Bool.or_false] using waits

theorem mem_performAll_of_zero (sound : queue.Sound 0) {ticket : Nat}
    (member : ⟨ticket, false⟩ ∈ queue.joiners) {operations : List (Operation α)}
    (patient : .abandonJoin ticket ∉ operations) (busy : queue.StaysBusy operations)
    {last : Operation α} (stays : last ≠ .abandonJoin ticket)
    (zero : ((queue.performAll operations).1.perform last).1.outstanding = 0) :
    ⟨ticket, true⟩ ∈ ((queue.performAll operations).1.perform last).1.joiners := by
  have present := mem_performAll_of_asleep sound member patient busy
  have remains : ¬ Joiner.IsLeaving ⟨ticket, false⟩ last := by
    rintro (gone | ⟨_, told⟩)
    · exact stays gone
    · cases told
  have waits := (perform_gathers (performAll_sound sound operations) last).stays _ present remains
  simpa only [Joiner.told, decide_eq_true zero, Bool.or_true] using waits

theorem mem_performAll_of_notified (sound : queue.Sound 0) {ticket : Nat}
    (member : ⟨ticket, true⟩ ∈ queue.joiners) {operations : List (Operation α)}
    (unasked : .resumeJoin ticket ∉ operations) (patient : .abandonJoin ticket ∉ operations) :
    ⟨ticket, true⟩ ∈ (queue.performAll operations).1.joiners := by
  induction operations generalizing queue with
  | nil => exact member
  | cons operation rest ih =>
    rw [List.mem_cons, not_or] at unasked patient
    have stays : ¬ Joiner.IsLeaving ⟨ticket, true⟩ operation := by
      rintro (gone | ⟨gone, _⟩)
      · exact patient.1 gone.symm
      · exact unasked.1 gone.symm
    exact ih (perform_sound sound operation) ((perform_gathers sound operation).stays _ member stays)
      unasked.2 patient.2

/-! The barrier. -/

structure IsBarrier (operations : List (Operation α)) : Prop where
  joined : ∀ operation, ((afterAll operations).perform operation).2 = .joined .joined ↔
    (afterAll operations).Looks operation ∧ (afterAll operations).outstanding = 0
  came : ∀ joiner ∈ (afterAll operations).joiners, ∃ before operation after,
    operations = before ++ operation :: after ∧ (afterAll before).Awaits operation joiner.ticket
  /-- Not having been told means that there has been work left ever since it was last found. -/
  since : ∀ before operation after, operations = before ++ operation :: after →
    ∀ joiner ∈ (afterAll operations).joiners, (afterAll before).Awaits operation joiner.ticket →
      (joiner.notified = false ↔ (afterAll (before ++ [operation])).StaysBusy after)
  told : (afterAll operations).outstanding = 0 →
    ∀ joiner ∈ (afterAll operations).joiners, joiner.notified = true
  resolves : (afterAll operations).outstanding = 0 → ∀ joiner ∈ (afterAll operations).joiners,
    ∀ more, (∀ item, .push item ∉ more) → .resumeJoin joiner.ticket ∉ more →
      .abandonJoin joiner.ticket ∉ more →
      ((afterAll (operations ++ more)).perform (.resumeJoin joiner.ticket)).2 = .joined .joined
  /-- Having been told is of no use if there is work again by the time of asking. -/
  again : ∀ joiner ∈ (afterAll operations).joiners, joiner.notified = true →
    (afterAll operations).outstanding ≠ 0 →
    ∃ ticket, (afterAll operations).Awaits (.resumeJoin joiner.ticket) ticket
  /-- Whoever finds work left waits until the next zero, and is told then. -/
  waits : ∀ operation ticket, (afterAll operations).Awaits operation ticket →
    ∀ more, .abandonJoin ticket ∉ more → (afterAll (operations ++ [operation])).StaysBusy more →
      ⟨ticket, false⟩ ∈ (afterAll (operations ++ operation :: more)).joiners ∧
      ∀ last, last ≠ .abandonJoin ticket →
        (afterAll (operations ++ operation :: (more ++ [last]))).outstanding = 0 →
        ⟨ticket, true⟩ ∈ (afterAll (operations ++ operation :: (more ++ [last]))).joiners

/-- Whatever has been done with a queue: who looks has joined exactly if nothing is outstanding; who waits
has not been told exactly if the count has not been zero since it was last found not to be; at zero everyone
has been told and joins by asking, unless there is a push first; and who has been told and asks too late
waits again, for the next zero. -/
theorem join_barrier (operations : List (Operation α)) : IsBarrier operations where
  joined := joined_iff (afterAll_sound operations)
  came := exists_awaits operations
  since := by
    rintro before operation after rfl joiner member awaits
    have sound := afterAll_sound before
    have waiting := (perform_gathers sound operation).waits _ awaits
    have next : (afterAll (before ++ [operation])).Sound 0 := afterAll_sound _
    rw [afterAll_cons] at member
    rw [← afterAll_concat] at waiting
    refine notified_iff_of_performAll next (next.joinerFresh _ waiting) ?_ ?_ after joiner member rfl
    · intro other present same
      obtain rfl := List.inj_on_of_nodup_map next.joinerDistinct present waiting same
      rfl
    · rw [afterAll_concat, awaits.outstanding_eq sound]
      exact awaits.busy
  told zero _ member := notified_of_idle (afterAll_sound operations) zero member
  resolves := by
    intro zero joiner member more pushless unasked patient
    have told := notified_of_idle (afterAll_sound operations) zero member
    have waiting : ⟨joiner.ticket, true⟩ ∈ (afterAll operations).joiners := told ▸ member
    have still := mem_performAll_of_notified (afterAll_sound operations) waiting unasked patient
    rw [← afterAll_append] at still
    refine (joined_iff (afterAll_sound (operations ++ more)) _).mpr ⟨.inr ⟨_, still, rfl, rfl⟩, ?_⟩
    rw [afterAll_append]
    exact performAll_idle zero pushless
  again := by
    intro joiner member told busy
    exact exists_awaits_of_looks (afterAll_sound operations) (.inr ⟨joiner, member, told, rfl⟩) busy
  waits := by
    intro operation ticket awaits more patient busy
    have waiting := (perform_gathers (afterAll_sound operations) operation).waits _ awaits
    rw [← afterAll_concat] at waiting
    have sound : (afterAll (operations ++ [operation])).Sound 0 := afterAll_sound _
    refine ⟨?_, ?_⟩
    · rw [afterAll_cons]
      exact mem_performAll_of_asleep sound waiting patient busy
    · intro last stays zero
      rw [afterAll_cons, performAll_concat] at zero ⊢
      exact mem_performAll_of_zero sound waiting patient busy stays zero

end Queue

end PageLoad.Work

import PageLoad.Work.Crew
import Mathlib.Data.List.Nodup

/-!
The invariant of a queue that several consumers share. A consumer waits without notice only
while the queue is open, nobody has left a permit behind and each item is matched by a notice
that has not been used; someone waits without notice for the work to be done only while there
is some.
-/

namespace PageLoad.Work

theorem notifyFirst_eq_none {notice : Notice} {consumers : List Consumer}
    (absent : notifyFirst notice consumers = none) :
    ∀ consumer ∈ consumers, consumer.notice ≠ none := by
  induction consumers with
  | nil => simp
  | cons first rest ih =>
    by_cases idle : first.notice = none
    · simp [notifyFirst, idle] at absent
    · simp only [notifyFirst, Option.isNone_iff_eq_none, idle, if_false, Option.map_eq_none_iff] at absent
      intro consumer member
      rcases List.mem_cons.mp member with same | later
      · exact same ▸ idle
      · exact ih absent consumer later

theorem notifyFirst_eq_some {notice : Notice} {consumers notified : List Consumer}
    (found : notifyFirst notice consumers = some notified) :
    ∃ before ticket after, consumers = before ++ ⟨ticket, none⟩ :: after ∧
      notified = before ++ ⟨ticket, some notice⟩ :: after := by
  induction consumers generalizing notified with
  | nil => simp [notifyFirst] at found
  | cons first rest ih =>
    by_cases idle : first.notice = none
    · simp only [notifyFirst, idle, Option.isNone_none, if_true, Option.some.injEq] at found
      exact ⟨[], first.ticket, rest, by rw [List.nil_append, ← idle], found.symm⟩
    · simp only [notifyFirst, Option.isNone_iff_eq_none, idle, if_false, Option.map_eq_some_iff] at found
      obtain ⟨later, found, rfl⟩ := found
      obtain ⟨before, ticket, after, rfl, rfl⟩ := ih found
      exact ⟨first :: before, ticket, after, rfl, rfl⟩

def Taken.item? {α : Type} : Taken α → Option α
  | .item value => some value
  | .closed | .pending _ => none

namespace Queue

variable {α : Type}

def calls (queue : Queue α) : Nat := queue.consumers.countP (·.notice = some .push)

/-- The invariant. While an operation is under way, some items may have no notice yet. -/
structure Sound (slack : Nat) (queue : Queue α) : Prop where
  fresh : ∀ consumer ∈ queue.consumers, consumer.ticket < queue.nextTicket
  distinct : (queue.consumers.map (·.ticket)).Nodup
  awake : ∀ consumer ∈ queue.consumers, consumer.notice = none →
    queue.closed = false ∧ queue.permit = false ∧ queue.items.length ≤ queue.calls + slack
  joinerFresh : ∀ joiner ∈ queue.joiners, joiner.ticket < queue.nextTicket
  joinerDistinct : (queue.joiners.map (·.ticket)).Nodup
  unfinished : ∀ joiner ∈ queue.joiners, joiner.notified = false → queue.outstanding ≠ 0

theorem sound_empty : (empty : Queue α).Sound 0 := by
  constructor <;> simp [empty]

theorem Sound.loosen {queue : Queue α} (sound : queue.Sound 0) : queue.Sound 1 :=
  { sound with
    awake := fun consumer member idle =>
      have ⟨opened, bare, few⟩ := sound.awake consumer member idle
      ⟨opened, bare, by omega⟩ }

/-- If nobody who waits has been given notice, there is nothing to take. -/
theorem items_eq_nil_of_asleep {queue : Queue α} (sound : queue.Sound 0)
    (waiting : queue.consumers ≠ [])
    (asleep : ∀ consumer ∈ queue.consumers, consumer.notice = none) : queue.items = [] := by
  obtain ⟨consumer, member⟩ := List.exists_mem_of_ne_nil _ waiting
  have ⟨_, _, few⟩ := sound.awake consumer member (asleep consumer member)
  have uncalled : queue.calls = 0 := by
    apply List.countP_eq_zero.mpr
    intro other present
    simp [asleep other present]
  exact List.length_eq_zero_iff.mp (by omega)

/-! Passing on the notice of a push changes nothing but who has been given notice. -/

@[simp] theorem notifyOne_items (queue : Queue α) : queue.notifyOne.items = queue.items := by
  unfold notifyOne; split <;> rfl

@[simp] theorem notifyOne_outstanding (queue : Queue α) :
    queue.notifyOne.outstanding = queue.outstanding := by
  unfold notifyOne; split <;> rfl

@[simp] theorem notifyOne_closed (queue : Queue α) : queue.notifyOne.closed = queue.closed := by
  unfold notifyOne; split <;> rfl

@[simp] theorem notifyOne_joiners (queue : Queue α) : queue.notifyOne.joiners = queue.joiners := by
  unfold notifyOne; split <;> rfl

@[simp] theorem notifyOne_nextTicket (queue : Queue α) :
    queue.notifyOne.nextTicket = queue.nextTicket := by
  unfold notifyOne; split <;> rfl

@[simp] theorem notifyOne_tickets (queue : Queue α) :
    queue.notifyOne.consumers.map (·.ticket) = queue.consumers.map (·.ticket) := by
  unfold notifyOne
  split
  next consumers found =>
    obtain ⟨before, ticket, after, same, rfl⟩ := notifyFirst_eq_some found
    simp [same]
  next => rfl

theorem notifyOne_sound {queue : Queue α} (sound : queue.Sound 1) : queue.notifyOne.Sound 0 := by
  have fresh : ∀ consumer ∈ queue.notifyOne.consumers, consumer.ticket < queue.nextTicket := by
    intro consumer member
    have known : consumer.ticket ∈ queue.notifyOne.consumers.map (·.ticket) :=
      List.mem_map_of_mem member
    rw [notifyOne_tickets] at known
    obtain ⟨old, present, same⟩ := List.mem_map.mp known
    exact same ▸ sound.fresh old present
  refine ⟨by simpa using fresh, by simpa using sound.distinct, ?_,
    by simpa using sound.joinerFresh, by simpa using sound.joinerDistinct,
    by simpa using sound.unfinished⟩
  unfold notifyOne
  split
  next consumers found =>
    obtain ⟨before, ticket, after, same, rfl⟩ := notifyFirst_eq_some found
    intro consumer member idle
    have present : consumer ∈ queue.consumers := by
      rw [same]
      rcases List.mem_append.mp member with early | late
      · exact List.mem_append_left _ early
      · rcases List.mem_cons.mp late with rfl | later
        · cases idle
        · exact List.mem_append_right _ (List.mem_cons_of_mem _ later)
    have ⟨opened, bare, few⟩ := sound.awake consumer present idle
    refine ⟨opened, bare, ?_⟩
    simp only [calls, same, List.countP_append, List.countP_cons] at few ⊢
    simpa [Nat.add_assoc] using few
  next absent =>
    intro consumer member idle
    exact absurd idle (notifyFirst_eq_none absent consumer member)

/-! Pushing an item. -/

@[simp] theorem push_items (queue : Queue α) (item : α) :
    (queue.push item).items = queue.items ++ [item] := by simp [push]

@[simp] theorem push_outstanding (queue : Queue α) (item : α) :
    (queue.push item).outstanding = queue.outstanding + 1 := by simp [push]

@[simp] theorem push_closed (queue : Queue α) (item : α) :
    (queue.push item).closed = queue.closed := by simp [push]

@[simp] theorem push_joiners (queue : Queue α) (item : α) :
    (queue.push item).joiners = queue.joiners := by simp [push]

@[simp] theorem push_tickets (queue : Queue α) (item : α) :
    (queue.push item).consumers.map (·.ticket) = queue.consumers.map (·.ticket) := by simp [push]

theorem push_sound {queue : Queue α} (sound : queue.Sound 0) (item : α) :
    (queue.push item).Sound 0 := by
  apply notifyOne_sound
  refine ⟨sound.fresh, sound.distinct, ?_, sound.joinerFresh, sound.joinerDistinct, ?_⟩
  · intro consumer member idle
    have ⟨opened, bare, few⟩ := sound.awake consumer member idle
    refine ⟨opened, bare, ?_⟩
    simp only [List.length_append, List.length_singleton, calls] at few ⊢
    omega
  · exact fun _ _ _ => Nat.succ_ne_zero _

/-! Asking for an item. -/

theorem pop_cases (queue : Queue α) :
    (∃ item rest, queue.items = item :: rest ∧
      queue.pop = ({ queue with permit := false, items := rest }, .item item)) ∨
    (queue.items = [] ∧ queue.closed = true ∧
      queue.pop = ({ queue with permit := false }, .closed)) ∨
    (queue.items = [] ∧ queue.closed = false ∧
      queue.pop = ({ queue with
          permit := false, consumers := queue.consumers ++ [⟨queue.nextTicket, none⟩],
          nextTicket := queue.nextTicket + 1 }, .pending queue.nextTicket)) := by
  cases found : queue.items with
  | cons item rest => exact .inl ⟨item, rest, rfl, by simp [pop, take?, found]⟩
  | nil =>
    right
    cases closed : queue.closed with
    | true => exact .inl ⟨rfl, rfl, by simp [pop, take?, found, closed]⟩
    | false => exact .inr ⟨rfl, rfl, by simp [pop, take?, found, closed]⟩

theorem pop_items (queue : Queue α) :
    queue.items = queue.pop.2.item?.toList ++ queue.pop.1.items := by
  obtain ⟨item, rest, found, taken⟩ | ⟨_, _, taken⟩ | ⟨_, _, taken⟩ := queue.pop_cases
  · rw [found, taken]
    rfl
  · rw [taken]
    rfl
  · rw [taken]
    rfl

@[simp] theorem pop_outstanding (queue : Queue α) : queue.pop.1.outstanding = queue.outstanding := by
  obtain ⟨_, _, _, taken⟩ | ⟨_, _, taken⟩ | ⟨_, _, taken⟩ := queue.pop_cases <;> simp [taken]

@[simp] theorem pop_closed (queue : Queue α) : queue.pop.1.closed = queue.closed := by
  obtain ⟨_, _, _, taken⟩ | ⟨_, _, taken⟩ | ⟨_, _, taken⟩ := queue.pop_cases <;> simp [taken]

@[simp] theorem pop_joiners (queue : Queue α) : queue.pop.1.joiners = queue.joiners := by
  obtain ⟨_, _, _, taken⟩ | ⟨_, _, taken⟩ | ⟨_, _, taken⟩ := queue.pop_cases <;> simp [taken]

theorem pop_sound {queue : Queue α} (sound : queue.Sound 1) : queue.pop.1.Sound 0 := by
  obtain ⟨item, rest, found, taken⟩ | ⟨_, closed, taken⟩ | ⟨found, opened, taken⟩ := queue.pop_cases
  · rw [taken]
    refine ⟨sound.fresh, sound.distinct, ?_, sound.joinerFresh, sound.joinerDistinct,
      sound.unfinished⟩
    intro consumer member idle
    have ⟨opened, _, few⟩ := sound.awake consumer member idle
    refine ⟨opened, rfl, ?_⟩
    simp only [found, List.length_cons, calls] at few ⊢
    omega
  · rw [taken]
    refine ⟨sound.fresh, sound.distinct, ?_, sound.joinerFresh, sound.joinerDistinct,
      sound.unfinished⟩
    intro consumer member idle
    have ⟨opened, _, _⟩ := sound.awake consumer member idle
    exact absurd closed (by simp [opened])
  · rw [taken]
    refine ⟨?_, ?_, ?_, ?_, sound.joinerDistinct, sound.unfinished⟩
    · intro consumer member
      rcases List.mem_append.mp member with old | new
      · exact Nat.lt_succ_of_lt (sound.fresh consumer old)
      · rw [List.mem_singleton.mp new]
        exact Nat.lt_succ_self _
    · have unused : queue.nextTicket ∉ queue.consumers.map (·.ticket) := by
        intro used
        obtain ⟨consumer, member, same⟩ := List.mem_map.mp used
        exact Nat.ne_of_lt (sound.fresh consumer member) same
      simpa [List.nodup_append] using ⟨sound.distinct, by simpa using unused⟩
    · exact fun _ _ _ => ⟨opened, rfl, by simp [found]⟩
    · exact fun joiner member => Nat.lt_succ_of_lt (sound.joinerFresh joiner member)

/-! Asking again. -/

/-- A consumer that waits is in one place only, and leaving takes it out of there. -/
theorem removeConsumer_split {slack : Nat} {queue : Queue α} (sound : queue.Sound slack)
    {ticket : Nat} {consumer : Consumer} (found : queue.consumer? ticket = some consumer) :
    ∃ before after, queue.consumers = before ++ consumer :: after ∧ consumer.ticket = ticket ∧
      (queue.removeConsumer ticket).consumers = before ++ after := by
  obtain ⟨same, before, after, split, early⟩ := List.find?_eq_some_iff_append.mp found
  have ticketed : consumer.ticket = ticket := by simpa using same
  have apart := sound.distinct
  rw [split, List.map_append, List.map_cons, List.nodup_append, List.nodup_cons] at apart
  refine ⟨before, after, split, ticketed, ?_⟩
  have keepBefore : before.filter (·.ticket ≠ ticket) = before := by
    rw [List.filter_eq_self]
    intro other member
    simpa using early other member
  have keepAfter : after.filter (·.ticket ≠ ticket) = after := by
    rw [List.filter_eq_self]
    intro other member
    have different : consumer.ticket ≠ other.ticket := fun equal =>
      apart.2.1.1 (equal ▸ List.mem_map_of_mem member)
    simpa [← ticketed] using different.symm
  simp only [removeConsumer, split, List.filter_append, List.filter_cons, keepBefore, keepAfter]
  simp [ticketed]

theorem removeConsumer_sound {queue : Queue α} (sound : queue.Sound 0) {ticket : Nat}
    {consumer : Consumer} (found : queue.consumer? ticket = some consumer) :
    (queue.removeConsumer ticket).Sound 1 := by
  obtain ⟨before, after, split, _, left⟩ := removeConsumer_split sound found
  have present : ∀ other ∈ (queue.removeConsumer ticket).consumers, other ∈ queue.consumers :=
    fun other member => List.mem_of_mem_filter member
  refine ⟨fun other member => sound.fresh other (present other member), ?_, ?_,
    sound.joinerFresh, sound.joinerDistinct, sound.unfinished⟩
  · exact sound.distinct.sublist ((List.filter_sublist).map _)
  · intro other member idle
    have ⟨opened, bare, few⟩ := sound.awake other (present other member) idle
    refine ⟨opened, bare, ?_⟩
    have few : queue.items.length ≤ queue.calls := few
    change queue.items.length ≤ (queue.removeConsumer ticket).calls + 1
    have counted : queue.calls ≤ (queue.removeConsumer ticket).calls + 1 := by
      simp only [calls, split, left, List.countP_append, List.countP_cons]
      split <;> omega
    omega

theorem resumePop_of_isCalled {queue : Queue α} {ticket : Nat} (called : queue.isCalled ticket = true) :
    ∃ consumer, queue.consumer? ticket = some consumer ∧ consumer.notice ≠ none ∧
      queue.resumePop ticket = (queue.removeConsumer ticket).pop := by
  unfold isCalled at called
  obtain ⟨consumer, found, notified⟩ := (Option.any_eq_true _ _).mp called
  have present : consumer.notice ≠ none := by simpa [Option.isSome_iff_ne_none] using notified
  exact ⟨consumer, found, present, by simp [resumePop, found, present]⟩

theorem resumePop_sound {queue : Queue α} (sound : queue.Sound 0) {ticket : Nat}
    (called : queue.isCalled ticket = true) : (queue.resumePop ticket).1.Sound 0 := by
  obtain ⟨consumer, found, _, resumed⟩ := resumePop_of_isCalled called
  rw [resumed]
  exact pop_sound (removeConsumer_sound sound found)

theorem consumer?_of_mem {slack : Nat} {queue : Queue α} (sound : queue.Sound slack)
    {consumer : Consumer} (member : consumer ∈ queue.consumers) :
    queue.consumer? consumer.ticket = some consumer := by
  cases found : queue.consumer? consumer.ticket with
  | none => simpa using List.find?_eq_none.mp found consumer member
  | some other =>
    have same : other.ticket = consumer.ticket := by simpa using List.find?_some found
    exact congrArg some
      (List.inj_on_of_nodup_map sound.distinct (List.mem_of_find?_eq_some found) member same)

theorem isCalled_of_mem {queue : Queue α} (sound : queue.Sound 0) {consumer : Consumer}
    (member : consumer ∈ queue.consumers) (notified : consumer.notice ≠ none) :
    queue.isCalled consumer.ticket = true := by
  rw [isCalled, consumer?_of_mem sound member]
  simpa [Option.isSome_iff_ne_none] using notified

/-! Marking work as done, waiting for that, and closing. -/

@[simp] theorem release_tickets (queue : Queue α) :
    queue.release.joiners.map (·.ticket) = queue.joiners.map (·.ticket) := by
  simp only [release, List.map_map]
  apply List.map_congr_left
  intro joiner _
  dsimp only [Function.comp]
  split <;> rfl

theorem release_sound {queue : Queue α} (sound : queue.Sound 0) : queue.release.Sound 0 := by
  refine ⟨sound.fresh, sound.distinct, sound.awake, ?_, ?_, ?_⟩
  · intro joiner member
    obtain ⟨old, present, rfl⟩ := List.mem_map.mp member
    have bound := sound.joinerFresh old present
    split <;> exact bound
  · rw [release_tickets]
    exact sound.joinerDistinct
  · intro joiner member asleep none
    obtain ⟨old, present, rfl⟩ := List.mem_map.mp member
    have zero : queue.outstanding - 1 = 0 := none
    simp [zero] at asleep

theorem join_cases (queue : Queue α) :
    (queue.outstanding = 0 ∧ queue.join = (queue, .joined)) ∨
    (queue.outstanding ≠ 0 ∧
      queue.join = ({ queue with
          joiners := queue.joiners ++ [⟨queue.nextTicket, false⟩],
          nextTicket := queue.nextTicket + 1 }, .pending queue.nextTicket)) := by
  by_cases idle : queue.outstanding = 0
  · exact .inl ⟨idle, by simp [join, idle]⟩
  · exact .inr ⟨idle, by simp [join, idle]⟩

/-! Waiting changes nothing but who waits. -/

@[simp] theorem join_items (queue : Queue α) : queue.join.1.items = queue.items := by
  unfold join; split <;> rfl

@[simp] theorem join_outstanding (queue : Queue α) :
    queue.join.1.outstanding = queue.outstanding := by
  unfold join; split <;> rfl

@[simp] theorem join_closed (queue : Queue α) : queue.join.1.closed = queue.closed := by
  unfold join; split <;> rfl

@[simp] theorem join_consumers (queue : Queue α) : queue.join.1.consumers = queue.consumers := by
  unfold join; split <;> rfl

theorem join_sound {queue : Queue α} (sound : queue.Sound 0) : queue.join.1.Sound 0 := by
  obtain ⟨_, joined⟩ | ⟨busy, joined⟩ := queue.join_cases
  · rw [joined]
    exact sound
  · rw [joined]
    refine ⟨fun consumer member => Nat.lt_succ_of_lt (sound.fresh consumer member), sound.distinct,
      sound.awake, ?_, ?_, ?_⟩
    · intro joiner member
      rcases List.mem_append.mp member with old | new
      · exact Nat.lt_succ_of_lt (sound.joinerFresh joiner old)
      · rw [List.mem_singleton.mp new]
        exact Nat.lt_succ_self _
    · have unused : queue.nextTicket ∉ queue.joiners.map (·.ticket) := by
        intro used
        obtain ⟨joiner, member, same⟩ := List.mem_map.mp used
        exact Nat.ne_of_lt (sound.joinerFresh joiner member) same
      simpa [List.nodup_append] using ⟨sound.joinerDistinct, by simpa using unused⟩
    · exact fun _ _ _ => busy

theorem abandonJoin_sound {queue : Queue α} (sound : queue.Sound 0) (ticket : Nat) :
    (queue.abandonJoin ticket).Sound 0 :=
  ⟨sound.fresh, sound.distinct, sound.awake,
    fun joiner member => sound.joinerFresh joiner (List.mem_of_mem_filter member),
    sound.joinerDistinct.sublist ((List.filter_sublist).map _),
    fun joiner member => sound.unfinished joiner (List.mem_of_mem_filter member)⟩

theorem resumeJoin_of_isReleased {queue : Queue α} {ticket : Nat}
    (released : queue.isReleased ticket = true) :
    queue.resumeJoin ticket = (queue.abandonJoin ticket).join := by
  unfold isReleased at released
  obtain ⟨joiner, found, notified⟩ := (Option.any_eq_true _ _).mp released
  simp [resumeJoin, found, notified]

@[simp] theorem close_tickets (queue : Queue α) :
    queue.close.consumers.map (·.ticket) = queue.consumers.map (·.ticket) := by
  simp only [close, List.map_map]
  apply List.map_congr_left
  intro consumer _
  dsimp only [Function.comp]
  split <;> rfl

theorem close_notifies (queue : Queue α) :
    ∀ consumer ∈ queue.close.consumers, consumer.notice ≠ none := by
  intro consumer member
  obtain ⟨old, present, rfl⟩ := List.mem_map.mp member
  by_cases asleep : old.notice = none <;> simp [asleep]

theorem close_sound {queue : Queue α} (sound : queue.Sound 0) : queue.close.Sound 0 := by
  refine ⟨?_, ?_, ?_, sound.joinerFresh, sound.joinerDistinct, sound.unfinished⟩
  · intro consumer member
    obtain ⟨old, present, rfl⟩ := List.mem_map.mp member
    have bound := sound.fresh old present
    split <;> exact bound
  · rw [close_tickets]
    exact sound.distinct
  · exact fun consumer member idle => absurd idle (close_notifies queue consumer member)

end Queue

end PageLoad.Work

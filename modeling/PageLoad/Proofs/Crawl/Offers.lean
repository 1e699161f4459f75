import PageLoad.Crawl.Action
import PageLoad.Crawl.Workers
import PageLoad.Proofs.Work.Notice
import Mathlib.Algebra.Order.BigOperators.Group.List
import Mathlib.Algebra.Order.Ring.Nat
import Mathlib.Data.List.Infix

/-!
What a round keeps account of, whatever is done with it and in whatever order. It accepts each URL from
the first who offers it and from nobody else; the tasks in its queue and the work that is outstanding are
those of the offers it has accepted; and its totals are those of the reports it has been given.
-/

namespace PageLoad.Crawl
open Work Number

namespace Action

def report? : Action → Option TaskReport
  | .record report => some report
  | .offer _ | .handle _ _ => none

def Offers (action : Action) (url : String) : Prop := ∃ task, action = .offer task ∧ task.url = url

end Action

namespace Deed

def accepted? (deed : Deed) : Option Task :=
  match deed.action, deed.reply with
  | .offer task, .offered true => some task
  | _, _ => none

def popped? (deed : Deed) : Option Task :=
  match deed.reply with
  | .handled answer => answer.item?
  | .offered _ | .recorded => none

def settles (deed : Deed) : Bool :=
  match deed.action, deed.reply with
  | .handle operation _, .handled answer => operation.settles answer
  | _, _ => false

theorem filterMap_concat {Found : Type} (find? : Deed → Option Found) (deeds : List Deed) (last : Deed) :
    (deeds ++ [last]).filterMap find? = deeds.filterMap find? ++ (find? last).toList := by
  cases found : find? last <;> simp [found]

end Deed

namespace Round

/-- What one thing that is done with a round does to it. -/
structure Moves (round next : Round) (deed : Deed) : Prop where
  names : next.rank = round.rank ∧ next.seedUrl = round.seedUrl
  seen : ∀ url, url ∈ next.seen ↔ url ∈ round.seen ∨ deed.action.Offers url
  judged : ∀ task, deed.action = .offer task → (deed.accepted? = some task ↔ task.url ∉ round.seen)
  queued : round.queue.items ++ deed.accepted?.toList = deed.popped?.toList ++ next.queue.items
  outstanding : round.queue.outstanding + deed.accepted?.toList.length =
    next.queue.outstanding + deed.settles.toNat
  tasks : next.tasks = round.tasks + deed.action.report?.toList.length
  bytes : next.bytes = (round.bytes + (deed.action.report?.toList.map (·.bytes)).sum) % UInt64.size

theorem moves_offer (round : Round) (small : round.bytes < UInt64.size) (task : Task) :
    round.Moves (round.offer task).1 ⟨.offer task, .offered (round.offer task).2⟩ := by
  have offering (url : String) : (Action.offer task).Offers url ↔ task.url = url := by
    simp [Action.Offers]
  obtain ⟨known, offered⟩ | ⟨new, offered⟩ := round.offer_cases task
  · rw [offered]
    refine ⟨⟨rfl, rfl⟩, ?_, ?_, List.append_nil _, rfl, rfl, (Nat.mod_eq_of_lt small).symm⟩
    · intro url
      have old (same : task.url = url) : url ∈ round.seen := same ▸ known
      rw [offering, or_iff_left_of_imp old]
    · rintro other same
      obtain rfl := Action.offer.inj same
      exact iff_of_false nofun (not_not_intro known)
  · rw [offered]
    refine ⟨⟨rfl, rfl⟩, ?_, ?_, ?_, ?_, rfl, (Nat.mod_eq_of_lt small).symm⟩
    · intro url
      rw [offering, List.mem_cons, or_comm, eq_comm]
    · rintro other same
      obtain rfl := Action.offer.inj same
      exact iff_of_true rfl new
    · exact (Queue.push_items round.queue task).symm
    · exact (Queue.push_outstanding round.queue task).symm

theorem moves_handle (round : Round) (small : round.bytes < UInt64.size) (operation : Operation Task)
    (apart : ∀ task, operation ≠ .push task) :
    round.Moves { round with queue := (round.queue.perform operation).1 }
      ⟨.handle operation apart, .handled (round.queue.perform operation).2⟩ := by
  refine ⟨⟨rfl, rfl⟩, ?_, nofun, ?_, ?_, rfl, (Nat.mod_eq_of_lt small).symm⟩
  · intro url
    simp [Action.Offers]
  · rw [Deed.accepted?, Option.toList_none, List.append_nil]
    exact Queue.perform_items round.queue apart
  · exact Queue.perform_outstanding round.queue apart

theorem perform_moves (round : Round) (small : round.bytes < UInt64.size) (action : Action) :
    round.Moves (round.perform action).1 ⟨action, (round.perform action).2⟩ := by
  cases action with
  | offer task => exact round.moves_offer small task
  | record report =>
    refine ⟨⟨rfl, rfl⟩, ?_, nofun, List.append_nil _, rfl, rfl, rfl⟩
    intro url
    simp [perform, record, Action.Offers]
  | handle operation apart => exact round.moves_handle small operation apart

/-- The account that a round keeps of what has been done with it. -/
structure Books (rank seedUrl : String) (round : Round) (deeds : List Deed) : Prop where
  seen : ∀ url, url ∈ round.seen ↔ url = seedUrl ∨ ∃ deed ∈ deeds, deed.action.Offers url
  /-- An offer is accepted exactly if its URL is not that of the seed and has not been offered before. -/
  offers : ∀ early deed, early ++ [deed] <+: deeds → ∀ task, deed.action = .offer task →
    (deed.accepted? = some task ↔
      task.url ≠ seedUrl ∧ ∀ earlier ∈ early, ¬ earlier.action.Offers task.url)
  queued : deeds.filterMap (·.popped?) ++ round.queue.items =
    Task.root seedUrl :: deeds.filterMap (·.accepted?)
  outstanding : round.queue.outstanding + deeds.countP (·.settles) =
    1 + (deeds.filterMap (·.accepted?)).length
  /-- The totals do not depend on the order of the reports. -/
  summary : ∀ (elapsed : Double) (reports : List TaskReport), reports.Perm (deeds.filterMap (·.action.report?)) →
    round.summary elapsed =
      ⟨rank, seedUrl, elapsed, reports.length, (reports.map (·.bytes)).sum % UInt64.size⟩

theorem books_start (rank seedUrl : String) : (start rank seedUrl).Books rank seedUrl [] := by
  refine ⟨?_, ?_, ?_, ?_, ?_⟩
  · simp [start, offer, Task.root]
  · intro early deed within
    simp at within
  · simp [start, offer, Queue.empty]
  · simp [start, offer, Queue.empty]
  · rintro elapsed reports none
    obtain rfl := none.eq_nil
    rfl

namespace Books

variable {rank seedUrl : String} {round next : Round} {deeds : List Deed} {last : Deed}

theorem totals (books : round.Books rank seedUrl deeds) :
    round.rank = rank ∧ round.seedUrl = seedUrl ∧
      round.tasks = (deeds.filterMap (·.action.report?)).length ∧
      round.bytes = ((deeds.filterMap (·.action.report?)).map (·.bytes)).sum % UInt64.size := by
  obtain ⟨rank, seedUrl, _, tasks, bytes⟩ :=
    RoundSummary.mk.inj (books.summary Double.zero _ (List.Perm.refl _))
  exact ⟨rank, seedUrl, tasks, bytes⟩

theorem concat (books : round.Books rank seedUrl deeds) (moves : round.Moves next last) :
    next.Books rank seedUrl (deeds ++ [last]) := by
  refine ⟨?_, ?_, ?_, ?_, ?_⟩
  · intro url
    simp only [moves.seen, books.seen, List.mem_append, List.mem_singleton, or_and_right, exists_or,
      exists_eq_left, or_assoc]
  · intro early deed within task offered
    rcases List.prefix_concat_iff.mp within with whole | before
    · obtain ⟨rfl, rfl⟩ := List.append_inj' whole rfl |>.imp_right List.singleton_inj.mp
      rw [moves.judged task offered, books.seen, not_or]
      simp
    · exact books.offers early deed before task offered
  · calc
      _ = deeds.filterMap (·.popped?) ++ (last.popped?.toList ++ next.queue.items) := by
        rw [Deed.filterMap_concat, List.append_assoc]
      _ = deeds.filterMap (·.popped?) ++ round.queue.items ++ last.accepted?.toList := by
        rw [← moves.queued, List.append_assoc]
      _ = _ := by
        rw [books.queued, Deed.filterMap_concat, List.cons_append]
  · have before := books.outstanding
    have change := moves.outstanding
    have settled : (if last.settles = true then 1 else 0) = last.settles.toNat := by
      cases last.settles <;> rfl
    rw [List.countP_append, List.countP_singleton, settled, Deed.filterMap_concat, List.length_append]
    omega
  · intro elapsed reports same
    obtain ⟨rank, seedUrl, tasks, bytes⟩ := books.totals
    rw [Deed.filterMap_concat] at same
    rw [Round.summary, moves.names.1, moves.names.2, moves.tasks, moves.bytes, rank, seedUrl, tasks,
      bytes, same.length_eq, (same.map _).sum_nat, List.length_append, List.map_append,
      List.sum_append, Nat.mod_add_mod]

theorem performAll (books : round.Books rank seedUrl deeds) (actions : List Action) :
    (round.performAll actions).1.Books rank seedUrl (deeds ++ (round.performAll actions).2) := by
  induction actions generalizing round deeds with
  | nil =>
    rw [Round.performAll, List.append_nil]
    exact books
  | cons action rest ih =>
    have small : round.bytes < UInt64.size := by
      rw [books.totals.2.2.2]
      exact Nat.mod_lt _ (by decide)
    have next := ih (books.concat (round.perform_moves small action))
    rw [List.append_assoc] at next
    exact next

end Books

theorem performAll_actions (round : Round) (actions : List Action) :
    (round.performAll actions).2.map (·.action) = actions := by
  induction actions generalizing round with
  | nil => rfl
  | cons action rest ih => exact congrArg (action :: ·) (ih (round.perform action).1)

/-- Whatever is done with a new round: among all offers of a URL the first is accepted and no other,
and none if it is the URL of the seed; what has been handed out and what is still queued are the root and
the tasks that have been accepted, in order; the work that is outstanding is that of these tasks, less what
has been marked as done; the totals are those of the reports; and an offer that is refused changes
nothing. -/
theorem one_winner (rank seedUrl : String) (actions : List Action) :
    ((start rank seedUrl).performAll actions).2.map (·.action) = actions ∧
      ((start rank seedUrl).performAll actions).1.Books rank seedUrl
        ((start rank seedUrl).performAll actions).2 ∧
      ∀ task, (((start rank seedUrl).performAll actions).1.offer task).2 = false →
        (((start rank seedUrl).performAll actions).1.offer task).1 =
          ((start rank seedUrl).performAll actions).1 := by
  refine ⟨performAll_actions _ actions, (books_start rank seedUrl).performAll actions, ?_⟩
  intro task refused
  obtain ⟨_, offered⟩ | ⟨_, offered⟩ := offer_cases ((start rank seedUrl).performAll actions).1 task
  · rw [offered]
  · rw [offered] at refused
    cases refused

end Round

end PageLoad.Crawl

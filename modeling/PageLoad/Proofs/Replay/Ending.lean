import PageLoad.Proofs.Replay.InOrder
import Mathlib.Algebra.Order.BigOperators.Group.List
import Mathlib.Data.Set.Card
import Mathlib.Logic.Relation

/-!
Which replays end. Records may list an asset below its own descendants; a replay ends just if nothing
that it comes to leads back to itself.
-/

namespace PageLoad.Replay
open Fetch Trace Work Relation

variable {send : Send} {answers : Answers} {page : Trace.Page} {id : String}

/-- Whether no request succeeds but for an asset that one asks `send` for with success. -/
def Answers.Within (send : Send) (answers : Answers) : Prop :=
  ∀ count asset, answers count asset = .ok () → send asset = .ok ()

theorem Answers.within_self (send : Send) : Answers.Within send fun _ => send := fun _ _ sent => sent

def Arrives (send : Send) (page : Trace.Page) (id : String) : Prop :=
  ∃ asset, page.asset? id = some asset ∧ send asset = .ok ()

def Leads (send : Send) (page : Trace.Page) (source target : String) : Prop :=
  Arrives send page source ∧ target ∈ page.children source

def IsReached (send : Send) (page : Trace.Page) : String → Prop :=
  ReflTransGen (Leads send page) Trace.Page.rootId

/-- Nothing that a replay comes to leads back to itself. -/
def IsAcyclic (send : Send) (page : Trace.Page) : Prop :=
  ∀ id, IsReached send page id → ¬ TransGen (Leads send page) id id

namespace Progress

variable {progress : Progress} {jobs : Multiset Job}

theorem Booked.released_of_asked (booked : Booked page progress jobs) {asset : Asset}
    (asked : asset ∈ progress.asked) : asset.id ∈ progress.released page := by
  rw [← Multiset.mem_coe, booked.ids, Multiset.mem_add]
  exact .inr (Multiset.mem_coe.mpr (List.mem_map_of_mem asked))

/-- A replay only releases what it comes to. -/
structure Traced (send : Send) (page : Trace.Page) (progress : Progress) (jobs : Multiset Job) : Prop
    extends Booked page progress jobs where
  sent : ∀ asset ∈ progress.arrived, send asset = .ok ()
  reached : ∀ id ∈ progress.released page, IsReached send page id

theorem traced_start (send : Send) (page : Trace.Page) :
    Traced send page (.start Trace.Page.rootId) 0 :=
  ⟨booked_start, fun _ arrived => (List.not_mem_nil arrived).elim,
    fun _ released => List.mem_singleton.mp released ▸ .refl⟩

namespace Traced

theorem reached_of_asked (traced : Traced send page progress jobs) {asset : Asset}
    (asked : asset ∈ progress.asked) : IsReached send page asset.id :=
  traced.reached _ (traced.released_of_asked asked)

theorem arrives_of_asked (traced : Traced send page progress jobs) {asset : Asset}
    (asked : asset ∈ progress.asked) (sent : send asset = .ok ()) : Arrives send page asset.id :=
  ⟨asset, traced.found asset asked, sent⟩

theorem arrives_of_arrived (traced : Traced send page progress jobs) {asset : Asset}
    (arrived : .arrived asset ∈ progress.notes) :
    IsReached send page asset.id ∧ Arrives send page asset.id := by
  have asked := traced.asked_of_arrived arrived
  have sent := traced.sent asset (mem_arrived.mpr arrived)
  exact ⟨traced.reached_of_asked asked, traced.arrives_of_asked asked sent⟩

end Traced

theorem traced_keeps (within : answers.Within send) (root : ∃ root, page.root? = some root) :
    (tradeOf answers page).Keeps (Traced send page) where
  keep traced same := ⟨(booked_keeps answers root).keep traced.toBooked same, traced.sent, traced.reached⟩
  take traced first := ⟨(booked_keeps answers root).take traced.toBooked first, traced.sent, traced.reached⟩
  act {progress job jobs} traced := by
    have booked := (booked_keeps answers root).act traced.toBooked
    refine ⟨booked, fun asset arrived => ?_, fun id released => ?_⟩
    · change asset ∈ (progress.act (answers progress.visits.length) page job).1.arrived at arrived
      obtain same | ⟨other, -, succeeded, grown⟩ := arrived_act _ page progress job
      · exact traced.sent asset (same ▸ arrived)
      · rw [grown, List.mem_append, List.mem_singleton] at arrived
        obtain old | rfl := arrived
        · exact traced.sent asset old
        · exact within _ asset succeeded
    · change id ∈ (progress.act (answers progress.visits.length) page job).1.released page at released
      obtain same | ⟨asset, rfl, succeeded, grown⟩ := released_act _ page progress job
      · exact traced.reached id (same ▸ released)
      · rw [grown, List.mem_append] at released
        obtain old | child := released
        · exact traced.reached id old
        · have asked := traced.asked_of_awaited
          have arrives := traced.arrives_of_asked asked (within _ asset succeeded)
          exact (traced.reached_of_asked asked).tail ⟨arrives, child⟩

end Progress

theorem crew_traced (send : Send) (page : Trace.Page) (workers : Nat) :
    Progress.Traced send page (crew Trace.Page.rootId workers).state
      (crew Trace.Page.rootId workers).jobs := by
  rw [crew, Crew.start_jobs]
  exact Progress.traced_start send page

theorem reached_traced (within : answers.Within send) (root : ∃ root, page.root? = some root) {workers : Nat}
    {now : Crew Progress Job}
    (reached : Crew.Reaches (tradeOf answers page) (crew Trace.Page.rootId workers) now) :
    Progress.Traced send page now.state now.jobs := by
  obtain ⟨_, ran⟩ := reached
  exact Crew.run_keeps (Progress.traced_keeps within root) (crew_traced send page workers) ran

/-! Where nothing leads back to itself, a replay ends: an id can be given a weight that pays for all
that it leads to. -/

theorem children_mem_records {child : String} (listed : child ∈ page.children id) :
    child ∈ page.records.map (·.id) := by
  obtain ⟨asset, recorded, named, _⟩ := Trace.Page.mem_children.mp listed
  exact List.mem_map.mpr ⟨asset, recorded, named⟩

theorem descendants_finite (send : Send) (page : Trace.Page) (id : String) :
    {other | TransGen (Leads send page) id other}.Finite := by
  refine (List.finite_toSet (page.records.map (·.id))).subset fun other path => ?_
  obtain ⟨parent, _, _, listed⟩ := TransGen.tail'_iff.mp path
  exact children_mem_records listed

noncomputable def height (send : Send) (page : Trace.Page) (id : String) : Nat :=
  {other | TransGen (Leads send page) id other}.ncard

theorem height_lt {child : String} (leads : Leads send page id child)
    (acyclic : ¬ TransGen (Leads send page) child child) :
    height send page child < height send page id := by
  refine Set.ncard_lt_ncard ⟨fun other path => .head leads path, fun below => ?_⟩
    (descendants_finite send page id)
  exact acyclic (below (TransGen.single leads))

noncomputable def weight (send : Send) (page : Trace.Page) (id : String) : Nat :=
  (16 * (page.records.length + 1)) ^ height send page id

theorem children_weight_le (acyclic : IsAcyclic send page) (reached : IsReached send page id)
    (arrives : Arrives send page id) :
    ((page.children id).map (weight send page · + 15)).sum ≤ weight send page id := by
  cases tall : height send page id with
  | zero =>
    have none : page.children id = [] := by
      refine List.eq_nil_iff_forall_not_mem.mpr fun child listed => ?_
      have lower := height_lt ⟨arrives, listed⟩ (acyclic child (reached.tail ⟨arrives, listed⟩))
      omega
    rw [none]
    exact Nat.zero_le _
  | succ height' =>
    generalize scale : 16 * (page.records.length + 1) = base
    have positive : 1 ≤ base ^ height' := Nat.one_le_pow _ _ (by omega)
    have each : ∀ cost ∈ (page.children id).map (weight send page · + 15), cost ≤ 16 * base ^ height' := by
      intro cost member
      obtain ⟨child, listed, rfl⟩ := List.mem_map.mp member
      have lower := height_lt ⟨arrives, listed⟩ (acyclic child (reached.tail ⟨arrives, listed⟩))
      have less : weight send page child ≤ base ^ height' := by
        rw [weight, scale]
        exact Nat.pow_le_pow_right (by omega) (by omega)
      omega
    have few : (page.children id).length ≤ page.records.length := by
      rw [Trace.Page.children, List.length_mergeSort, List.length_map]
      exact List.length_filter_le _ _
    calc ((page.children id).map (weight send page · + 15)).sum
        ≤ ((page.children id).map (weight send page · + 15)).length • (16 * base ^ height') :=
          List.sum_le_card_nsmul _ _ each
      _ ≤ page.records.length * (16 * base ^ height') := by
          rw [List.length_map, Nat.nsmul_eq_mul]
          exact Nat.mul_le_mul_right _ few
      _ ≤ base * base ^ height' := by
          rw [← Nat.mul_assoc]
          exact Nat.mul_le_mul_right _ (by omega)
      _ = weight send page id := by rw [weight, scale, tall, Nat.pow_succ, Nat.mul_comm]

/-- How many turns a job takes after the next, all that it leads to among them. -/
noncomputable def Job.wholeCost (send : Send) (page : Trace.Page) : Job → Nat
  | .look id => weight send page id + 2
  | .await asset => weight send page asset.id + 1
  | .spread ids => (ids.map (weight send page · + 15)).sum

theorem spends_wholeCost (within : answers.Within send) (acyclic : IsAcyclic send page) :
    (tradeOf answers page).Spends (Progress.Traced send page) (Job.wholeCost send page) fun _ => 0 where
  keep _ _ := rfl
  act {progress job jobs} traced := by
    cases job with
    | look id =>
      simp only [tradeOf, Progress.act]
      cases found : page.asset? id with
      | none => exact ⟨[], rfl, Nat.zero_le _⟩
      | some asset =>
        obtain ⟨_, rfl⟩ := Trace.Page.mem_of_asset? found
        exact ⟨[], rfl, by simp [Job.wholeCost]⟩
    | await asset =>
      simp only [tradeOf, Progress.act]
      cases succeeded : answers progress.visits.length asset with
      | error failure => exact ⟨[], rfl, Nat.zero_le _⟩
      | ok _ =>
        have asked := traced.asked_of_awaited
        have paid := children_weight_le acyclic (traced.reached_of_asked asked)
          (traced.arrives_of_asked asked (within _ asset succeeded))
        refine ⟨[], rfl, ?_⟩
        simp only [List.map_nil, List.sum_nil, Option.elim, Job.wholeCost]
        omega
    | spread ids =>
      cases ids with
      | nil => exact ⟨[], rfl, Nat.le_refl _⟩
      | cons id rest =>
        refine ⟨[id], rfl, ?_⟩
        simp only [tradeOf, Progress.act, Option.elim, List.map_cons, List.map_nil, List.sum_cons,
          List.sum_nil, Job.wholeCost]
        omega

theorem ends_of_acyclic (within : answers.Within send) (root : ∃ root, page.root? = some root)
    (acyclic : IsAcyclic send page) (workers : Nat) :
    (crew Trace.Page.rootId (max workers 1)).Ends (tradeOf answers page) := by
  refine Crew.ends (Progress.traced_keeps within root) (spends_wholeCost within acyclic)
    (crew_sound _ _ _ _) ?_ (crew_traced send page _)
  exact Crew.start_staffed _ (by omega)

/-! What leads back to itself keeps a replay going: something that comes to it is always left to do. -/

def IsEndless (send : Send) (page : Trace.Page) (id : String) : Prop :=
  ∃ knot, ReflTransGen (Leads send page) id knot ∧ TransGen (Leads send page) knot knot

theorem IsEndless.child (endless : IsEndless send page id) :
    Arrives send page id ∧ ∃ child ∈ page.children id, IsEndless send page child := by
  obtain ⟨knot, path, loop⟩ := endless
  obtain rfl | ⟨child, ⟨arrives, listed⟩, rest⟩ := path.cases_head
  · obtain ⟨child, ⟨arrives, listed⟩, rest⟩ := TransGen.head'_iff.mp loop
    exact ⟨arrives, child, listed, id, rest, loop⟩
  · exact ⟨arrives, child, listed, knot, rest, loop⟩

def Job.held : Job → List String
  | .look id => [id]
  | .await asset => [asset.id]
  | .spread ids => ids

namespace Progress

/-- Something is queued or under way that leads back to itself. -/
structure Unending (send : Send) (page : Trace.Page) (progress : Progress) (jobs : Multiset Job) : Prop
    extends Booked page progress jobs where
  left : ∃ id, (id ∈ progress.queue.items ∨ ∃ job ∈ jobs, id ∈ job.held) ∧ IsEndless send page id

/-- The action for an id that leads back to itself leaves another such id. -/
theorem act_endless {progress : Progress} {job : Job}
    (found : ∀ asset, job = .await asset → page.asset? asset.id = some asset)
    (held : id ∈ job.held) (endless : IsEndless send page id) :
    ∃ other, (other ∈ (act send page progress job).1.queue.items ∨
      ∃ next ∈ (act send page progress job).2, other ∈ next.held) ∧ IsEndless send page other := by
  obtain ⟨⟨asset, known, sent⟩, child, listed, further⟩ := endless.child
  cases job with
  | look other =>
    obtain rfl := List.mem_singleton.mp held
    obtain ⟨_, named⟩ := Trace.Page.mem_of_asset? known
    simp only [act, known]
    exact ⟨id, .inr ⟨_, rfl, List.mem_singleton.mpr named.symm⟩, endless⟩
  | await other =>
    obtain rfl := List.mem_singleton.mp held
    obtain rfl := Option.some.inj (known.symm.trans (found other rfl))
    simp only [act, sent]
    exact ⟨child, .inr ⟨_, rfl, listed⟩, further⟩
  | spread ids =>
    cases ids with
    | nil => cases held
    | cons first rest =>
      rcases List.mem_cons.mp held with rfl | later
      · exact ⟨id, .inl (by simp [act]), endless⟩
      · exact ⟨id, .inr ⟨_, rfl, later⟩, endless⟩

theorem act_items (send : Send) (page : Trace.Page) (progress : Progress) (job : Job) :
    progress.queue.items ⊆ (act send page progress job).1.queue.items := by
  obtain ⟨items, pushed⟩ := (trade send page).act_pushes progress job
  change (act send page progress job).1.queue = progress.queue.pushAll items at pushed
  rw [pushed, Queue.pushAll_items]
  exact List.subset_append_left _ _

theorem unending_keeps (send : Send) (root : ∃ root, page.root? = some root) :
    (trade send page).Keeps (Unending send page) where
  keep {progress jobs queue} unending same := by
    refine ⟨(booked_keeps _ root).keep unending.toBooked same, ?_⟩
    obtain ⟨id, queued | under, endless⟩ := unending.left
    · have queued' : id ∈ queue.items := same ▸ queued
      exact ⟨id, .inl queued', endless⟩
    · exact ⟨id, .inr under, endless⟩
  take {progress jobs item queue} unending first := by
    refine ⟨(booked_keeps _ root).take unending.toBooked first, ?_⟩
    obtain ⟨id, queued | ⟨job, member, held⟩, endless⟩ := unending.left
    · have queued' : id ∈ item :: queue.items := first ▸ queued
      rcases List.mem_cons.mp queued' with rfl | rest
      · exact ⟨id, .inr ⟨_, Multiset.mem_cons_self _ _, List.mem_singleton_self id⟩, endless⟩
      · exact ⟨id, .inl rest, endless⟩
    · exact ⟨id, .inr ⟨job, Multiset.mem_cons_of_mem member, held⟩, endless⟩
  act {progress job jobs} unending := by
    refine ⟨(booked_keeps _ root).act unending.toBooked, ?_⟩
    have among {next : Job} (member : next ∈ (act send page progress job).2) :
        next ∈ ((act send page progress job).2.elim jobs (· ::ₘ jobs)) := by
      rw [Option.mem_def.mp member]
      exact Multiset.mem_cons_self _ _
    have kept {other : Job} (member : other ∈ jobs) :
        other ∈ ((act send page progress job).2.elim jobs (· ::ₘ jobs)) := by
      cases (act send page progress job).2 with
      | none => exact member
      | some next => exact Multiset.mem_cons_of_mem member
    obtain ⟨id, queued | ⟨other, member, held⟩, endless⟩ := unending.left
    · exact ⟨id, .inl (act_items send page progress job queued), endless⟩
    · rcases Multiset.mem_cons.mp member with rfl | elsewhere
      · have found : ∀ asset, other = .await asset → page.asset? asset.id = some asset := by
          rintro asset rfl
          exact unending.found asset unending.asked_of_awaited
        obtain ⟨next, queued | ⟨later, under, held⟩, further⟩ := act_endless found held endless
        · exact ⟨next, .inl queued, further⟩
        · exact ⟨next, .inr ⟨later, among under, held⟩, further⟩
      · exact ⟨id, .inr ⟨other, kept elsewhere, held⟩, endless⟩

end Progress

theorem acyclic_of_ends (root : ∃ root, page.root? = some root) {workers : Nat}
    (ends : (crew Trace.Page.rootId workers).Ends (trade send page)) : IsAcyclic send page := by
  intro knot reached loop
  obtain ⟨last, ⟨schedule, ran⟩, through⟩ := ends.exists_through
  have sound := Crew.run_sound (crew_sound _ page _ _) ran
  have done := sound.released (by rw [through]; rfl)
  have started : Progress.Unending send page (crew Trace.Page.rootId workers).state
      (crew Trace.Page.rootId workers).jobs := by
    rw [crew, Crew.start_jobs]
    exact ⟨Progress.booked_start, Trace.Page.rootId, .inl (List.mem_singleton_self _), knot, reached, loop⟩
  have unending := Crew.run_keeps (Progress.unending_keeps send root) started ran
  obtain ⟨id, queued | ⟨job, member, _⟩, _⟩ := unending.left
  · have empty : last.state.queue.items = [] := (sound.quiet done).1
    rw [empty] at queued
    cases queued
  · rw [sound.idle done] at member
    cases member

end PageLoad.Replay

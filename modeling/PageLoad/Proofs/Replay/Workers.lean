import PageLoad.Proofs.Trace.Page
import PageLoad.Proofs.Work.Crew
import PageLoad.Replay.Workers
import Mathlib.Algebra.Order.Group.Multiset
import Mathlib.Data.Multiset.Bind
import Mathlib.Data.Multiset.Filter
import Mathlib.Tactic.Abel

/-!
What holds while workers replay a page together: where the ids are that have been queued, and which
requests have been sent for them.
-/

namespace PageLoad.Replay
open Fetch Trace Work

variable {send : Send} {page : Trace.Page}

namespace Job

def ids : Job → Multiset String
  | .look id => {id}
  | .await _ => 0
  | .spread ids => ids

def awaited? : Job → Option Asset
  | .await asset => some asset
  | .look _ | .spread _ => none

variable (jobs : Multiset Job)

def awaited : Multiset Asset := jobs.filterMap awaited?

theorem awaited_look (id : String) : awaited (.look id ::ₘ jobs) = awaited jobs :=
  Multiset.filterMap_cons_none _ _ rfl

theorem awaited_await (asset : Asset) : awaited (.await asset ::ₘ jobs) = {asset} + awaited jobs :=
  (Multiset.filterMap_cons_some awaited? _ _ rfl).trans (Multiset.singleton_add _ _).symm

theorem awaited_spread (ids : List String) : awaited (.spread ids ::ₘ jobs) = awaited jobs :=
  Multiset.filterMap_cons_none _ _ rfl

end Job

def Note.arrived? : Note → Option Asset
  | .arrived asset => some asset
  | .asked _ | .failed _ _ => none

/-- An asset is asked for when it is the root, or a child of one that has arrived before. -/
def Ordered (page : Trace.Page) (notes : List Note) : Prop :=
  ∀ before asset after, notes = before ++ .asked asset :: after →
    asset.id = Trace.Page.rootId ∨
      ∃ parent, .arrived parent ∈ before ∧ asset.id ∈ page.children parent.id

theorem Ordered.append {notes : List Note} (ordered : Ordered page notes) {note : Note}
    (fits : ∀ asset, note = .asked asset → asset.id = Trace.Page.rootId ∨
      ∃ parent, .arrived parent ∈ notes ∧ asset.id ∈ page.children parent.id) :
    Ordered page (notes ++ [note]) := by
  intro before asset after split
  obtain rfl | ⟨front, last, rfl⟩ := List.eq_nil_or_concat after
  · obtain ⟨rfl, same⟩ := List.append_inj' split rfl
    exact fits asset (List.cons.inj same).1
  · rw [List.concat_eq_append, ← List.cons_append, ← List.append_assoc] at split
    exact ordered before asset front (List.append_inj' split rfl).1

namespace Progress

def arrived (progress : Progress) : List Asset := progress.notes.filterMap (·.arrived?)

/-- The ids that may be asked for: the root and the children of what has arrived. -/
def released (page : Trace.Page) (progress : Progress) : List String :=
  Trace.Page.rootId :: progress.arrived.flatMap (page.children ·.id)

theorem note_queue (progress : Progress) (note : Note) : (progress.note note).queue = progress.queue := rfl

theorem asked_note (progress : Progress) (note : Note) :
    (progress.note note).asked = progress.asked ++ note.asked?.toList := by
  rw [asked, Progress.note, List.filterMap_append, asked]
  cases note <;> rfl

theorem visits_note (progress : Progress) (note : Note) :
    (progress.note note).visits = progress.visits ++ note.visit?.toList := by
  rw [visits, Progress.note, List.filterMap_append, visits]
  cases note <;> rfl

theorem arrived_note (progress : Progress) (note : Note) :
    (progress.note note).arrived = progress.arrived ++ note.arrived?.toList := by
  rw [arrived, Progress.note, List.filterMap_append, arrived]
  cases note <;> rfl

theorem released_note (progress : Progress) (note : Note) :
    (progress.note note).released page =
      progress.released page ++ note.arrived?.toList.flatMap (page.children ·.id) := by
  rw [released, arrived_note, List.flatMap_append, released, List.cons_append]

theorem released_arrived (page : Trace.Page) (progress : Progress) (asset : Asset) :
    (progress.note (.arrived asset)).released page = progress.released page ++ page.children asset.id := by
  rw [released_note]
  exact congrArg _ (List.append_nil _)

/-! A note that says nothing of what is counted leaves it alone. -/

theorem asked_note_of_none (progress : Progress) {note : Note} (silent : note.asked? = none) :
    (progress.note note).asked = progress.asked := by
  rw [asked_note, silent, Option.toList_none, List.append_nil]

theorem visits_note_of_none (progress : Progress) {note : Note} (silent : note.visit? = none) :
    (progress.note note).visits = progress.visits := by
  rw [visits_note, silent, Option.toList_none, List.append_nil]

theorem released_note_of_none (progress : Progress) {note : Note} (silent : note.arrived? = none) :
    (progress.note note).released page = progress.released page := by
  rw [released_note, silent, Option.toList_none, List.flatMap_nil, List.append_nil]

theorem mem_arrived {progress : Progress} {asset : Asset} :
    asset ∈ progress.arrived ↔ .arrived asset ∈ progress.notes := by
  rw [arrived, List.mem_filterMap]
  constructor
  · rintro ⟨note, member, same⟩
    cases note with
    | arrived other =>
      cases same
      exact member
    | asked other => cases same
    | failed other failure => cases same
  · exact fun member => ⟨_, member, rfl⟩

theorem mem_released {progress : Progress} {id : String} :
    id ∈ progress.released page ↔ id = Trace.Page.rootId ∨
      ∃ parent, .arrived parent ∈ progress.notes ∧ id ∈ page.children parent.id := by
  simp only [released, List.mem_cons, List.mem_flatMap, mem_arrived]

theorem recorded_of_released (root : ∃ root, page.root? = some root) {progress : Progress} {id : String}
    (known : id ∈ progress.released page) : id ∈ page.records.map (·.id) := by
  obtain rfl | ⟨parent, _, child⟩ := mem_released.mp known
  · obtain ⟨root, isRoot⟩ := root
    obtain ⟨present, named⟩ := Trace.Page.mem_of_asset? isRoot
    exact List.mem_map.mpr ⟨root, present, named⟩
  · obtain ⟨asset, member, named, _⟩ := Trace.Page.mem_children.mp child
    exact List.mem_map.mpr ⟨asset, member, named⟩

theorem arrived_sublist (progress : Progress) :
    progress.arrived.Sublist (progress.visits.map (·.asset)) := by
  rw [arrived, visits]
  induction progress.notes with
  | nil => exact .slnil
  | cons note notes ih =>
    cases note with
    | asked asset => exact ih
    | arrived asset => exact ih.cons_cons _
    | failed asset failure => exact ih.cons _

/-- Every id that has been released is queued, about to be queued or looked up, or asked for; and
every asset that has been asked for is awaited or has come to its end. -/
structure Booked (page : Trace.Page) (progress : Progress) (jobs : Multiset Job) : Prop where
  ids : (progress.released page : Multiset String) =
    ↑progress.queue.items + jobs.bind Job.ids + ↑(progress.asked.map (·.id))
  visits : (progress.asked : Multiset Asset) =
    ↑(progress.visits.map (·.asset)) + Job.awaited jobs
  found : ∀ asset ∈ progress.asked, page.asset? asset.id = some asset
  ordered : Ordered page progress.notes

theorem booked_start : Booked page (.start Trace.Page.rootId) 0 := by
  refine ⟨?_, rfl, by simp [start, asked], ?_⟩
  · simp [start, released, arrived, asked, Queue.empty]
  · intro before asset after split
    exact absurd split (by simp [start])

namespace Booked

variable {progress : Progress} {jobs : Multiset Job}

theorem known (booked : Booked page progress jobs) : ∀ asset ∈ progress.asked, asset ∈ page.records :=
  fun asset member => (Trace.Page.mem_of_asset? (booked.found asset member)).1

theorem released_of_job (booked : Booked page progress jobs) {job : Job} (member : job ∈ jobs)
    {id : String} (held : id ∈ job.ids) : id ∈ progress.released page := by
  rw [← Multiset.mem_coe, booked.ids, Multiset.mem_add, Multiset.mem_add, Multiset.mem_bind]
  exact .inl (.inr ⟨job, member, held⟩)

theorem asked_of_arrived (booked : Booked page progress jobs) {asset : Asset}
    (arrived : .arrived asset ∈ progress.notes) : asset ∈ progress.asked := by
  have visited := progress.arrived_sublist.subset (mem_arrived.mpr arrived)
  rw [← Multiset.mem_coe, booked.visits]
  exact Multiset.mem_add.mpr (.inl visited)

theorem asked_of_awaited {asset : Asset} (booked : Booked page progress (.await asset ::ₘ jobs)) :
    asset ∈ progress.asked := by
  rw [← Multiset.mem_coe, booked.visits, Job.awaited_await]
  simp

theorem parent_arrived (booked : Booked page progress jobs) (grounded : page.IsGrounded)
    {before after : List Note} {asset : Asset} (split : progress.notes = before ++ .asked asset :: after) :
    asset.id = Trace.Page.rootId ∨ ∃ parent, .arrived parent ∈ before ∧ parent.id = asset.parentId := by
  obtain isRoot | ⟨parent, arrived, child⟩ := booked.ordered before asset after split
  · exact .inl isRoot
  · have asked : asset ∈ progress.asked := List.mem_filterMap.mpr ⟨.asked asset, by simp [split], rfl⟩
    exact .inr ⟨parent, arrived,
      (grounded.parentId_of_mem_children (booked.known asset asked) child).symm⟩

theorem handOn (booked : Booked page progress jobs) {queue : Queue String} {left : Multiset Job}
    (ids : (queue.items : Multiset String) + left.bind Job.ids =
      ↑progress.queue.items + jobs.bind Job.ids)
    (awaited : Job.awaited left = Job.awaited jobs) : Booked page { progress with queue } left := by
  refine ⟨?_, ?_, booked.found, booked.ordered⟩
  · refine booked.ids.trans ?_
    rw [← ids]
    rfl
  · rw [awaited]
    exact booked.visits

theorem take (booked : Booked page progress jobs) {id : String} {queue : Queue String}
    (first : progress.queue.items = id :: queue.items) :
    Booked page { progress with queue } (.look id ::ₘ jobs) := by
  refine booked.handOn ?_ (Job.awaited_look _ _)
  rw [first, Multiset.cons_bind, Job.ids, ← Multiset.cons_coe, ← Multiset.singleton_add]
  abel

theorem push {id : String} {rest : List String}
    (booked : Booked page progress (.spread (id :: rest) ::ₘ jobs)) :
    Booked page { progress with queue := progress.queue.push id } (.spread rest ::ₘ jobs) := by
  refine booked.handOn ?_ ((Job.awaited_spread _ _).trans (Job.awaited_spread _ _).symm)
  rw [Multiset.cons_bind, Multiset.cons_bind, Job.ids, Job.ids, Queue.push_items, ← Multiset.coe_add,
    Multiset.coe_singleton, ← Multiset.cons_coe, ← Multiset.singleton_add]
  abel

theorem spread (booked : Booked page progress (.spread [] ::ₘ jobs)) : Booked page progress jobs := by
  refine booked.handOn ?_ (Job.awaited_spread _ _).symm
  rw [Multiset.cons_bind, Job.ids, Multiset.coe_nil, zero_add]

theorem look {id : String} {asset : Asset} (booked : Booked page progress (.look id ::ₘ jobs))
    (found : page.asset? id = some asset) :
    Booked page (progress.note (.asked asset)) (.await asset ::ₘ jobs) := by
  obtain ⟨_, rfl⟩ := Trace.Page.mem_of_asset? found
  have held := booked.released_of_job (Multiset.mem_cons_self _ _) (Multiset.mem_singleton_self _)
  have released : (progress.note (.asked asset)).released page = progress.released page :=
    released_note_of_none progress rfl
  have asked : (progress.note (.asked asset)).asked = progress.asked ++ [asset] := asked_note progress _
  have visits : (progress.note (.asked asset)).visits = progress.visits :=
    visits_note_of_none progress rfl
  refine ⟨?_, ?_, ?_, ?_⟩
  · rw [released, asked, booked.ids, Multiset.cons_bind, Multiset.cons_bind, Job.ids, Job.ids,
      List.map_append, ← Multiset.coe_add, List.map_cons, List.map_nil, Multiset.coe_singleton]
    rw [note_queue]
    abel
  · rw [asked, visits, ← Multiset.coe_add, booked.visits, Job.awaited_look, Job.awaited_await,
      Multiset.coe_singleton]
    abel
  · intro other present
    rw [asked, List.mem_append] at present
    rcases present with old | new
    · exact booked.found other old
    · exact List.mem_singleton.mp new ▸ found
  · refine booked.ordered.append ?_
    intro other same
    cases same
    exact mem_released.mp held

theorem arrive {asset : Asset} (booked : Booked page progress (.await asset ::ₘ jobs)) :
    Booked page (progress.note (.arrived asset)) (.spread (page.children asset.id) ::ₘ jobs) := by
  have asked : (progress.note (.arrived asset)).asked = progress.asked :=
    asked_note_of_none progress rfl
  have visits : (progress.note (.arrived asset)).visits = progress.visits ++ [⟨asset, none⟩] :=
    visits_note progress _
  refine ⟨?_, ?_, asked ▸ booked.found, ?_⟩
  · rw [released_arrived, asked, ← Multiset.coe_add, booked.ids, Multiset.cons_bind,
      Multiset.cons_bind, Job.ids, Job.ids]
    rw [note_queue]
    abel
  · rw [asked, visits, booked.visits, Job.awaited_await, Job.awaited_spread, List.map_append,
      ← Multiset.coe_add, List.map_cons, List.map_nil, Multiset.coe_singleton]
    abel
  · exact booked.ordered.append fun other same => by cases same

theorem fail {asset : Asset} (booked : Booked page progress (.await asset ::ₘ jobs))
    (failure : Failure) : Booked page (progress.note (.failed asset failure)) jobs := by
  have released : (progress.note (.failed asset failure)).released page = progress.released page :=
    released_note_of_none progress rfl
  have asked : (progress.note (.failed asset failure)).asked = progress.asked :=
    asked_note_of_none progress rfl
  have visits : (progress.note (.failed asset failure)).visits = progress.visits ++ [⟨asset, some failure⟩] :=
    visits_note progress _
  refine ⟨?_, ?_, asked ▸ booked.found, ?_⟩
  · rw [released, asked, booked.ids, Multiset.cons_bind, Job.ids, zero_add]
    rfl
  · rw [asked, visits, booked.visits, Job.awaited_await, List.map_append, ← Multiset.coe_add,
      List.map_cons, List.map_nil, Multiset.coe_singleton]
    abel
  · exact booked.ordered.append fun other same => by cases same

end Booked

theorem booked_keeps (answers : Answers) (root : ∃ root, page.root? = some root) :
    (tradeOf answers page).Keeps (Booked page) where
  keep booked same := booked.handOn (by rw [same]; rfl) rfl
  take booked first := booked.take first
  act {progress job jobs} booked := by
    cases job with
    | look id =>
      have released := booked.released_of_job (Multiset.mem_cons_self _ _)
        (Multiset.mem_singleton_self _)
      obtain ⟨asset, found⟩ := Trace.Page.asset?_isSome (recorded_of_released root released)
      simp only [tradeOf, act, found]
      exact booked.look found
    | await asset =>
      simp only [tradeOf, act]
      cases answers progress.visits.length asset with
      | ok _ => exact booked.arrive
      | error failure => exact booked.fail failure
    | spread ids =>
      cases ids with
      | nil => exact booked.spread
      | cons id rest => exact booked.push

theorem arrived_act (send : Send) (page : Trace.Page) (progress : Progress) (job : Job) :
    (act send page progress job).1.arrived = progress.arrived ∨
      ∃ asset, job = .await asset ∧ send asset = .ok () ∧
        (act send page progress job).1.arrived = progress.arrived ++ [asset] := by
  have silent (note : Note) (none : note.arrived? = none) :
      (progress.note note).arrived = progress.arrived := by
    rw [arrived_note, none, Option.toList_none, List.append_nil]
  cases job with
  | look id =>
    refine .inl ?_
    simp only [act]
    cases page.asset? id with
    | none => rfl
    | some asset => exact silent _ rfl
  | await asset =>
    simp only [act]
    cases sent : send asset with
    | ok _ => exact .inr ⟨asset, rfl, sent, arrived_note progress _⟩
    | error failure => exact .inl (silent _ rfl)
  | spread ids => cases ids <;> exact .inl rfl

theorem released_act (send : Send) (page : Trace.Page) (progress : Progress) (job : Job) :
    (act send page progress job).1.released page = progress.released page ∨
      ∃ asset, job = .await asset ∧ send asset = .ok () ∧
        (act send page progress job).1.released page =
          progress.released page ++ page.children asset.id := by
  obtain same | ⟨asset, awaited, sent, grown⟩ := arrived_act send page progress job
  · left
    rw [released, same, released]
  · refine .inr ⟨asset, awaited, sent, ?_⟩
    rw [released, grown, List.flatMap_append, List.flatMap_singleton, ← List.cons_append, released]

/-- No id has been released twice. -/
structure Accounted (page : Trace.Page) (progress : Progress) (jobs : Multiset Job) : Prop
    extends Booked page progress jobs where
  once : (progress.released page).Nodup

theorem accounted_start : Accounted page (.start Trace.Page.rootId) 0 :=
  ⟨booked_start, List.nodup_singleton _⟩

namespace Accounted

variable {progress : Progress} {jobs : Multiset Job}

theorem asked_nodup (accounted : Accounted page progress jobs) : (progress.asked.map (·.id)).Nodup := by
  have part : (progress.asked.map (·.id) : Multiset String) ≤ ↑(progress.released page) := by
    rw [accounted.ids]
    exact Multiset.le_add_left _ _
  exact Multiset.coe_nodup.mp (Multiset.nodup_of_le part (Multiset.coe_nodup.mpr accounted.once))

theorem not_arrived {asset : Asset} (accounted : Accounted page progress (.await asset ::ₘ jobs)) :
    asset.id ∉ progress.arrived.map (·.id) := by
  have distinct := Multiset.coe_nodup.mpr accounted.asked_nodup
  rw [← Multiset.map_coe, accounted.visits, Job.awaited_await, Multiset.map_add] at distinct
  intro arrived
  have visited := (progress.arrived_sublist.map (·.id)).subset arrived
  have apart := (Multiset.nodup_add.mp distinct).2.2
  exact Multiset.disjoint_left.mp apart (by simpa using visited) (by simp)

/-- The children of an asset that arrives are new, if they are listed once, the root is not among them
and nothing else that has arrived lists them. -/
theorem once_arrived {asset : Asset} (accounted : Accounted page progress (.await asset ::ₘ jobs))
    (listed : (page.children asset.id).Nodup) (root : Trace.Page.rootId ∉ page.children asset.id)
    (alone : ∀ parent, .arrived parent ∈ progress.notes → ∀ id ∈ page.children asset.id,
      id ∈ page.children parent.id → asset.id = parent.id) :
    (progress.released page ++ page.children asset.id).Nodup := by
  rw [List.nodup_append]
  refine ⟨accounted.once, listed, ?_⟩
  rintro id known _ child rfl
  obtain rfl | ⟨parent, arrived, other⟩ := mem_released.mp known
  · exact root child
  · have same := alone parent arrived id child other
    exact accounted.not_arrived (List.mem_map.mpr ⟨parent, mem_arrived.mpr arrived, same.symm⟩)

theorem once_act {job : Job} (accounted : Accounted page progress (job ::ₘ jobs))
    (fresh : ∀ asset, job = .await asset → send asset = .ok () →
      (progress.released page ++ page.children asset.id).Nodup) :
    ((act send page progress job).1.released page).Nodup := by
  obtain same | ⟨asset, awaited, sent, grown⟩ := released_act send page progress job
  · exact same ▸ accounted.once
  · exact grown ▸ fresh asset awaited sent

end Accounted

theorem accounted_keeps (answers : Answers) (grounded : page.IsGrounded) :
    (tradeOf answers page).Keeps (Accounted page) where
  keep accounted same :=
    ⟨(booked_keeps answers grounded.root_isSome).keep accounted.toBooked same, accounted.once⟩
  take accounted first :=
    ⟨(booked_keeps answers grounded.root_isSome).take accounted.toBooked first, accounted.once⟩
  act {progress job jobs} accounted := by
    refine ⟨(booked_keeps answers grounded.root_isSome).act accounted.toBooked, accounted.once_act ?_⟩
    rintro asset rfl -
    exact accounted.once_arrived (Trace.Page.children_nodup grounded.distinct)
      grounded.rootId_not_mem_children fun parent _ id child other => grounded.parent_unique child other

end Progress

end PageLoad.Replay

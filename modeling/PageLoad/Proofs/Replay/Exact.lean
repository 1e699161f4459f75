import PageLoad.Proofs.Replay.Workers
import PageLoad.Proofs.Work.Progress

/-!
A replay comes to its end, with one request for each asset that its parents lead to.
-/

namespace PageLoad.Replay
open Fetch Trace Work

variable {send : Send} {answers : Answers} {page : Trace.Page} {workers : Nat}

/-! A replay ends, because no asset is asked for twice. -/

def Job.cost : Job → Nat
  | .look _ => 2
  | .await _ => 1
  | .spread ids => 15 * ids.length

/-- What the assets may cost whose parents have not arrived. -/
def Progress.budget (page : Trace.Page) (progress : Progress) : Nat :=
  15 * page.records.countP fun asset => asset.parentId ∉ progress.arrived.map (·.id)

theorem children_length_le (page : Trace.Page) {ids : List String} {id : String} (new : id ∉ ids) :
    (page.children id).length + page.records.countP (·.parentId ∉ ids ++ [id]) ≤
      page.records.countP (·.parentId ∉ ids) := by
  rw [Trace.Page.children, List.length_mergeSort, List.length_map]
  induction page.records with
  | nil => exact Nat.le_refl _
  | cons asset records ih =>
    have later : asset.parentId ∈ ids ++ [id] ↔ asset.parentId ∈ ids ∨ asset.parentId = id := by simp
    rw [List.filter_cons, List.countP_cons, List.countP_cons]
    by_cases parent : asset.parentId = id
    · rw [parent] at later
      simp only [parent, later, new, or_true, not_true_eq_false, not_false_eq_true, decide_true,
        decide_false, Bool.true_and, if_true, Bool.false_eq_true, if_false]
      split
      · rw [List.length_cons]
        omega
      · omega
    · simp only [parent, later, or_false, decide_false, Bool.false_and, Bool.false_eq_true, if_false]
      omega

theorem spends :
    (tradeOf answers page).Spends (Progress.Accounted page) Job.cost (Progress.budget page) where
  keep _ _ := rfl
  act {progress job jobs} accounted := by
    have same (note : Note) (silent : note.arrived? = none) :
        (progress.note note).budget page = progress.budget page := by
      rw [Progress.budget, Progress.arrived_note, silent, Option.toList_none, List.append_nil,
        Progress.budget]
    cases job with
    | look id =>
      refine ⟨[], ?_, ?_⟩
      · simp only [tradeOf, Progress.act]
        cases page.asset? id <;> rfl
      · simp only [tradeOf, Progress.act]
        cases page.asset? id with
        | none => exact Nat.le_add_right _ _
        | some asset =>
          rw [same _ rfl]
          exact Nat.le_refl _
    | await asset =>
      refine ⟨[], ?_, ?_⟩
      · simp only [tradeOf, Progress.act]
        cases answers progress.visits.length asset <;> rfl
      · simp only [tradeOf, Progress.act]
        cases answers progress.visits.length asset with
        | error failure =>
          rw [same _ rfl]
          exact Nat.le_succ _
        | ok _ =>
          have fewer := children_length_le page accounted.not_arrived
          have arrived : (progress.note (.arrived asset)).arrived = progress.arrived ++ [asset] :=
            progress.arrived_note _
          simp only [Progress.budget, arrived, List.map_append, List.map_cons, List.map_nil,
            Option.elim, Job.cost, List.sum_nil]
          omega
    | spread ids =>
      cases ids with
      | nil => exact ⟨[], rfl, Nat.le_refl _⟩
      | cons id rest =>
        refine ⟨[id], rfl, ?_⟩
        simp only [tradeOf, Progress.act, Option.elim, List.map_cons, List.map_nil, List.sum_singleton,
          Job.cost, List.length_cons]
        change progress.budget page + _ + _ ≤ _
        omega

/-! What has happened when a replay ends. -/

def Progress.Truthful (send : Send) (progress : Progress) (_ : Multiset Job) : Prop :=
  ∀ visit ∈ progress.visits, Visit.make send visit.asset = visit

theorem Progress.Truthful.note {progress : Progress} {jobs left : Multiset Job}
    (truthful : Progress.Truthful send progress jobs) {note : Note}
    (fits : ∀ visit, note.visit? = some visit → Visit.make send visit.asset = visit) :
    Progress.Truthful send (progress.note note) left := by
  intro visit member
  rw [Progress.visits_note, List.mem_append] at member
  rcases member with old | new
  · exact truthful visit old
  · exact fits visit (Option.mem_toList.mp new)

theorem Progress.Truthful.arrived {progress : Progress} {jobs : Multiset Job}
    (truthful : Progress.Truthful send progress jobs) {asset : Asset}
    (arrived : .arrived asset ∈ progress.notes) : send asset = .ok () := by
  have made := truthful ⟨asset, none⟩ (List.mem_filterMap.mpr ⟨.arrived asset, arrived, rfl⟩)
  rw [Visit.make] at made
  cases sent : send asset with
  | ok _ => rfl
  | error failure =>
    rw [sent] at made
    cases made

theorem truthful_keeps (send : Send) (page : Trace.Page) :
    (trade send page).Keeps (Progress.Truthful send) where
  keep truthful _ := truthful
  take truthful _ := truthful
  act {progress job jobs} truthful := by
    cases job with
    | look id =>
      simp only [tradeOf, Progress.act]
      cases page.asset? id with
      | none => exact truthful
      | some asset => exact truthful.note fun visit closes => by cases closes
    | await asset =>
      simp only [tradeOf, Progress.act]
      cases sent : send asset with
      | ok _ =>
        refine truthful.note fun visit closes => ?_
        cases closes
        rw [Visit.make, sent]
      | error failure =>
        refine truthful.note fun visit closes => ?_
        cases closes
        rw [Visit.make, sent]
    | spread ids => cases ids <;> exact truthful

structure Progress.Drained (send : Send) (page : Trace.Page) (progress : Progress) : Prop where
  booked : Booked page progress 0
  truthful : Truthful send progress 0
  empty : progress.queue.items = []

/-- A page that has nothing left to do, and nothing of which was released twice. -/
structure Progress.Finished (send : Send) (page : Trace.Page) (progress : Progress) : Prop
    extends Drained send page progress where
  once : (progress.released page).Nodup

theorem crew_sound (answers : Answers) (page : Trace.Page) (id : String) (workers : Nat) :
    (crew id workers).Sound (tradeOf answers page) :=
  Crew.start_sound _ [id] workers rfl

theorem crew_accounted (page : Trace.Page) (workers : Nat) :
    Progress.Accounted page (crew Trace.Page.rootId workers).state (crew Trace.Page.rootId workers).jobs := by
  rw [crew, Crew.start_jobs]
  exact Progress.accounted_start

theorem reached_finished (grounded : page.IsGrounded) {last : Crew Progress Job}
    (reached : Crew.Reaches (trade send page) (crew Trace.Page.rootId workers) last)
    (done : last.state.queue.outstanding = 0) : Progress.Finished send page last.state := by
  have sound := reached.sound (crew_sound _ page _ workers)
  obtain ⟨_, ran⟩ := reached
  have accounted := Crew.run_keeps (Progress.accounted_keeps _ grounded)
    (crew_accounted page workers) ran
  have truthful := Crew.run_keeps (truthful_keeps send page) (fun _ member => by cases member) ran
  rw [sound.idle done] at accounted
  exact ⟨⟨accounted.toBooked, truthful, (sound.quiet done).1⟩, accounted.once⟩

theorem Replayed.IsBy.finished {client : Client} {replayed : Replayed}
    (replays : replayed.IsBy client workers) (grounded : replayed.page.IsGrounded) :
    Progress.Finished (client.send replayed.network) replayed.page replayed.progress := by
  obtain ⟨root, isRoot⟩ := grounded.root_isSome
  simp only [Replayed.IsBy, isRoot, (Trace.Page.mem_of_asset? isRoot).2] at replays
  obtain ⟨schedule, last, ran, released, same⟩ := replays
  have done := (Crew.Reaches.sound ⟨schedule, ran⟩ (crew_sound _ _ _ _)).released released
  exact same ▸ reached_finished grounded ⟨schedule, ran⟩ done

theorem crew_ends (send : Send) (grounded : page.IsGrounded) (workers : Nat) :
    (crew Trace.Page.rootId (max workers 1)).Ends (trade send page) := by
  refine Crew.ends (Progress.accounted_keeps _ grounded) spends (crew_sound _ _ _ _) ?_
    (crew_accounted _ _)
  simp [crew, Crew.start]

namespace Progress.Drained

variable {progress : Progress}

theorem visits_perm (drained : Drained send page progress) :
    progress.asked.Perm (progress.visits.map (·.asset)) := by
  have visits := drained.booked.visits
  simpa [Job.awaited] using visits

theorem released_perm (drained : Drained send page progress) :
    (progress.released page).Perm (progress.asked.map (·.id)) := by
  have ids := drained.booked.ids
  rw [drained.empty] at ids
  simpa using ids

theorem arrived (drained : Drained send page progress) {asset : Asset}
    (asked : asset ∈ progress.asked) (arrives : send asset = .ok ()) : .arrived asset ∈ progress.notes := by
  obtain ⟨visit, visited, rfl⟩ := List.mem_map.mp (drained.visits_perm.mem_iff.mp asked)
  have made := drained.truthful visit visited
  obtain ⟨note, noted, closes⟩ := List.mem_filterMap.mp visited
  cases note with
  | asked other => cases closes
  | arrived other =>
    cases closes
    exact noted
  | failed other failure =>
    cases closes
    rw [Visit.make, arrives] at made
    cases made

end Progress.Drained

namespace Progress.Finished

variable {progress : Progress}

theorem accounted (finished : Finished send page progress) : Accounted page progress 0 :=
  ⟨finished.booked, finished.once⟩

theorem asked (finished : Finished send page progress) (grounded : page.IsGrounded) {asset : Asset}
    (member : asset ∈ page.records) (led : asset.id ∈ progress.released page) :
    asset ∈ progress.asked := by
  obtain ⟨other, present, same⟩ := List.mem_map.mp (finished.released_perm.mem_iff.mp led)
  have known := finished.booked.known other present
  exact List.inj_on_of_nodup_map grounded.distinct known member same ▸ present

theorem whole (finished : Finished send page progress) (tree : page.IsTree)
    (served : ∀ asset ∈ page.records, send asset = .ok ()) :
    progress.asked.Perm page.records ∧ ∀ visit ∈ progress.visits, visit.failure = none := by
  have succeeds : ∀ visit ∈ progress.visits, visit.failure = none := by
    intro visit member
    have asked := finished.visits_perm.mem_iff.mpr (List.mem_map_of_mem (f := (·.asset)) member)
    have made := finished.truthful visit member
    rw [Visit.make, served _ (finished.accounted.known _ asked)] at made
    exact made ▸ rfl
  have all : ∀ asset ∈ page.records, asset ∈ progress.asked := by
    intro asset member
    -- ids grow along the tree, and what is asked for has arrived before its children are
    induction size : asset.id.length using Nat.strong_induction_on generalizing asset with
    | _ size ih =>
      refine finished.asked tree.toIsGrounded member (mem_released.mpr ?_)
      obtain root | ⟨parent, present, named, shorter⟩ := tree.parent asset member
      · exact .inl root
      · have asked := ih _ (size ▸ shorter) parent present rfl
        refine .inr ⟨parent, finished.arrived asked (served parent present), ?_⟩
        refine Trace.Page.mem_children.mpr ⟨asset, member, rfl, named.symm, ?_⟩
        rintro same
        rw [same] at shorter
        exact Nat.lt_irrefl _ shorter
  refine ⟨?_, succeeds⟩
  refine (List.perm_ext_iff_of_nodup finished.accounted.asked_nodup.of_map
    tree.distinct.of_map).mpr fun asset => ⟨finished.accounted.known asset, all asset⟩

end Progress.Finished

end PageLoad.Replay

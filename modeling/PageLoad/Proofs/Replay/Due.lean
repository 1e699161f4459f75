import PageLoad.Proofs.Replay.InOrder

/-!
Which assets a replay asks for. An asset is due when all that lead to it from the root have arrived,
and a replay comes to its end with one request for each asset that is due.
-/

namespace PageLoad.Replay
open Fetch Number Trace Work

variable {send : Send} {page : Trace.Page}

/-- Whether an asset is to be asked for: the root is, and what is recorded with a parent that is to be
asked for as well and arrives. -/
inductive IsDue (send : Send) (page : Trace.Page) : Asset → Prop where
  | root {asset : Asset} (recorded : asset ∈ page.records) (named : asset.id = Trace.Page.rootId) :
    IsDue send page asset
  | child {parent asset : Asset} (due : IsDue send page parent) (arrives : send parent = .ok ())
    (recorded : asset ∈ page.records) (led : asset.parentId = parent.id) : IsDue send page asset

/-- What holds of the requests at any time: no asset is asked for twice, only those that are due, and
each but the root after its parent has arrived. -/
structure IsProper (send : Send) (page : Trace.Page) (progress : Progress) : Prop where
  once : (progress.asked.map (·.id)).Nodup
  due : ∀ asset ∈ progress.asked, IsDue send page asset
  ordered : ∀ before asset after, progress.notes = before ++ .asked asset :: after →
    asset.id = Trace.Page.rootId ∨
      ∃ parent, .arrived parent ∈ before ∧ send parent = .ok () ∧ parent.id = asset.parentId

/-- What holds of a page that has been replayed: all that is due has been asked for, and the outcome
counts these requests and those of them that failed. All recorded bytes are counted. -/
structure IsExact (send : Send) (page : Trace.Page) (progress : Progress) (outcome : Outcome) : Prop
    extends IsProper send page progress where
  all : ∀ asset, IsDue send page asset → asset ∈ progress.asked
  requests : outcome.requests = progress.asked.length
  failures : outcome.failures = progress.asked.countP fun asset => !(send asset).isOk
  totalBytes : outcome.totalBytes = (page.records.map (·.length)).sum

theorem Visit.make_isSome (send : Send) (asset : Asset) :
    (Visit.make send asset).failure.isSome = !(send asset).isOk := by
  rw [Visit.make]
  cases send asset <;> rfl

namespace Progress

variable {progress : Progress} {jobs : Multiset Job}

structure Justified (send : Send) (page : Trace.Page) (progress : Progress) (jobs : Multiset Job) :
    Prop extends Accounted page progress jobs where
  truthful : Truthful send progress jobs
  due : ∀ asset ∈ progress.asked, IsDue send page asset

namespace Justified

theorem due_of_released (justified : Justified send page progress jobs) (grounded : page.IsGrounded)
    {asset : Asset} (recorded : asset ∈ page.records) (released : asset.id ∈ progress.released page) :
    IsDue send page asset := by
  obtain isRoot | ⟨parent, arrived, child⟩ := mem_released.mp released
  · exact .root recorded isRoot
  · exact .child (justified.due parent (justified.asked_of_arrived arrived))
      (justified.truthful.arrived arrived) recorded (grounded.parentId_of_mem_children recorded child)

theorem proper (justified : Justified send page progress jobs) (grounded : page.IsGrounded) :
    IsProper send page progress := by
  refine ⟨justified.asked_nodup, justified.due, fun before asset after split => ?_⟩
  obtain isRoot | ⟨parent, arrived, led⟩ := justified.parent_arrived grounded split
  · exact .inl isRoot
  · have noted : .arrived parent ∈ progress.notes := split ▸ List.mem_append_left _ arrived
    exact .inr ⟨parent, arrived, justified.truthful.arrived noted, led⟩

end Justified

theorem justified_keeps (send : Send) (grounded : page.IsGrounded) :
    (trade send page).Keeps (Justified send page) where
  keep justified same :=
    ⟨(accounted_keeps _ grounded).keep justified.toAccounted same,
      (truthful_keeps send page).keep justified.truthful same, justified.due⟩
  take justified first :=
    ⟨(accounted_keeps _ grounded).take justified.toAccounted first,
      (truthful_keeps send page).take justified.truthful first, justified.due⟩
  act {progress job jobs} justified := by
    refine ⟨(accounted_keeps _ grounded).act justified.toAccounted,
      (truthful_keeps send page).act justified.truthful, ?_⟩
    cases job with
    | look id =>
      simp only [tradeOf, act]
      cases found : page.asset? id with
      | none => exact justified.due
      | some asset =>
        obtain ⟨recorded, rfl⟩ := Trace.Page.mem_of_asset? found
        have released := justified.released_of_job (Multiset.mem_cons_self _ _)
          (Multiset.mem_singleton_self _)
        intro other member
        rw [asked_note, List.mem_append] at member
        rcases member with old | new
        · exact justified.due other old
        · exact List.mem_singleton.mp new ▸ justified.due_of_released grounded recorded released
    | await asset =>
      simp only [tradeOf, act]
      cases send asset with
      | ok _ =>
        rw [asked_note_of_none progress rfl]
        exact justified.due
      | error failure =>
        rw [asked_note_of_none progress rfl]
        exact justified.due
    | spread ids => cases ids <;> exact justified.due

theorem Finished.asked_of_due (finished : Finished send page progress) (grounded : page.IsGrounded)
    {asset : Asset} (due : IsDue send page asset) : asset ∈ progress.asked := by
  induction due with
  | root recorded named => exact finished.asked grounded recorded (mem_released.mpr (.inl named))
  | @child parent asset _ arrives recorded led ih =>
    by_cases own : asset.id = parent.id
    · have known := finished.accounted.known parent ih
      exact List.inj_on_of_nodup_map grounded.distinct recorded known own ▸ ih
    · have child := Trace.Page.mem_children.mpr ⟨asset, recorded, rfl, led, own⟩
      have arrived := finished.arrived ih arrives
      exact finished.asked grounded recorded (mem_released.mpr (.inr ⟨parent, arrived, child⟩))

theorem Finished.exact (finished : Finished send page progress) (grounded : page.IsGrounded)
    (proper : IsProper send page progress) (elapsed : Double) :
    IsExact send page progress ⟨page, progress.visits, elapsed⟩ := by
  refine ⟨proper, fun asset due => finished.asked_of_due grounded due, ?_, ?_, page.totalBytes_eq_sum⟩
  · have same := finished.visits_perm.length_eq
    rw [List.length_map] at same
    exact same.symm
  · rw [finished.visits_perm.countP_eq, List.countP_map, Outcome.failures]
    refine List.countP_congr fun visit member => ?_
    rw [Function.comp_apply, ← Visit.make_isSome, finished.truthful visit member]

end Progress

theorem reached_proper (grounded : page.IsGrounded) {workers : Nat} {now : Crew Progress Job}
    (reached : Crew.Reaches (trade send page) (crew Trace.Page.rootId workers) now) :
    IsProper send page now.state := by
  obtain ⟨_, ran⟩ := reached
  have started : Progress.Justified send page (crew Trace.Page.rootId workers).state
      (crew Trace.Page.rootId workers).jobs :=
    ⟨crew_accounted page workers, fun _ visited => (List.not_mem_nil visited).elim,
      fun _ asked => (List.not_mem_nil asked).elim⟩
  exact (Crew.run_keeps (Progress.justified_keeps send grounded) started ran).proper grounded

theorem reached_exact (grounded : page.IsGrounded) {workers : Nat} {last : Crew Progress Job}
    (reached : Crew.Reaches (trade send page) (crew Trace.Page.rootId workers) last)
    (released : last.watch.isReleased = true) (elapsed : Double) :
    IsExact send page last.state ⟨page, last.state.visits, elapsed⟩ := by
  have done := (reached.sound (crew_sound _ page _ workers)).released released
  exact (reached_finished grounded reached done).exact grounded (reached_proper grounded reached) elapsed

theorem isGrounded_of_records {records : List Asset} (built : Trace.Page.ofRecords? records = some page)
    (distinct : (records.map (·.id)).Nodup)
    (root : ∃ root ∈ records, root.id = Trace.Page.rootId ∧ root.parentId = Trace.Page.rootId) :
    page.records = records ∧ page.IsGrounded := by
  rw [Trace.Page.ofRecords?] at built
  split at built
  · cases built
    exact ⟨rfl, distinct, root⟩
  · cases built

/-- A page whose ids differ is replayed exactly, whichever requests fail and in whatever order the
workers take their turns. The replay ends with all workers gone. At any time it has asked only for what
is due, and for each asset after its parent has arrived; once the work is done, it has asked for all
that is due, and the outcome counts these requests. So it is when the page is replayed in order. -/
theorem replay_exact (send : Send) (workers : Nat) {records : List Asset}
    (built : Trace.Page.ofRecords? records = some page) (distinct : (records.map (·.id)).Nodup)
    (root : ∃ root ∈ records, root.id = Trace.Page.rootId ∧ root.parentId = Trace.Page.rootId) :
    page.records = records ∧ page.root?.map (·.id) = some Trace.Page.rootId ∧
    (crew Trace.Page.rootId (max workers 1)).Ends (trade send page) ∧
    (∀ now, Crew.Reaches (trade send page) (crew Trace.Page.rootId (max workers 1)) now →
      IsProper send page now.state ∧
      ((∀ actor, now.step? (trade send page) actor = none) →
        now.watch = .through ∧ ∀ stage ∈ now.stages, stage = .gone) ∧
      (now.watch.isReleased = true →
        ∀ elapsed, IsExact send page now.state ⟨page, now.state.visits, elapsed⟩)) ∧
    ∀ limit, records.length ≤ limit →
      ∃ last, Crew.Reaches (trade send page) (crew Trace.Page.rootId 1) last ∧
        last.watch.isReleased = true ∧ IsExact send page last.state (replayPage send limit page) := by
  obtain ⟨rfl, grounded⟩ := isGrounded_of_records built distinct root
  obtain ⟨first, isRoot⟩ := grounded.root_isSome
  have named : first.id = Trace.Page.rootId := (Trace.Page.mem_of_asset? isRoot).2
  refine ⟨rfl, by rw [isRoot, Option.map_some, named], crew_ends send grounded workers, ?_, ?_⟩
  · intro now reached
    refine ⟨reached_proper grounded reached, ?_, reached_exact grounded reached⟩
    obtain ⟨_, ran⟩ := reached
    have sound := Crew.run_sound (crew_sound _ page _ _) ran
    exact Crew.gone_of_still sound (Crew.run?_staffed ran (Crew.start_staffed _ (by omega)))
  · intro limit room
    obtain ⟨last, visits, reached, done⟩ := walk_finished send grounded room
    have ended := reached.trans (Crew.reaches_closing (trade send page) _ done)
    refine ⟨_, ended, rfl, ?_⟩
    have outcome : replayPage send limit page = ⟨page, last.visits, .zero⟩ := by
      simp only [replayPage, isRoot, named, visits]
    rw [outcome]
    exact reached_exact grounded ended rfl .zero

/-! A page with an asset that does not arrive, one whose parent was never recorded, and two that load
each other. -/

def brokenRecords : List Asset :=
  [⟨"6", "5", 1, .zero, "a"⟩, ⟨"5", "6", 2, .zero, "b"⟩, ⟨"0.0.0", "0.0", 4, .zero, "c"⟩,
    ⟨"0.1", "0", 8, .zero, "d"⟩, ⟨"0.0", "0", 16, .zero, "e"⟩, ⟨"9", "8", 32, .zero, "f"⟩,
    ⟨"0", "0", 64, .zero, "g"⟩]

def brokenSend : Send := fun asset =>
  if asset.id = "0.0" then .error (.transport asset.url .timeout) else .ok ()

theorem brokenRecords_due (asset : Asset) : IsDue brokenSend ⟨brokenRecords⟩ asset ↔
    asset ∈ brokenRecords.filter (·.id ∈ ["0", "0.0", "0.1"]) := by
  rw [List.mem_filter, decide_eq_true_eq]
  constructor
  · intro due
    induction due with
    | root recorded named => exact ⟨recorded, named ▸ List.mem_cons_self⟩
    | @child parent asset _ arrives recorded led ih =>
      have had : parent.id ≠ "0.0" := by
        intro lost
        rw [brokenSend, if_pos lost] at arrives
        cases arrives
      have children : ∀ asset ∈ brokenRecords, asset.parentId ∈ ["0", "0.1"] →
          asset.id ∈ ["0", "0.0", "0.1"] := by decide +kernel
      refine ⟨recorded, children asset recorded (led ▸ ?_)⟩
      simpa [had] using ih.2
  · rintro ⟨recorded, listed⟩
    have led : ∀ asset ∈ brokenRecords, asset.id ∈ ["0", "0.0", "0.1"] → asset.parentId = "0" := by
      decide +kernel
    have root : IsDue brokenSend ⟨brokenRecords⟩ ⟨"0", "0", 64, .zero, "g"⟩ :=
      .root (by decide +kernel) rfl
    exact .child root rfl recorded (led asset recorded listed)

theorem replay_exact_broken : ∃ page last,
    Trace.Page.ofRecords? brokenRecords = some page ∧
    (crew Trace.Page.rootId (max 3 1)).Ends (trade brokenSend page) ∧
    Crew.Reaches (trade brokenSend page) (crew Trace.Page.rootId 1) last ∧
    last.watch.isReleased = true ∧
    IsExact brokenSend page last.state (replayPage brokenSend 7 page) ∧
    last.state.asked.Perm (brokenRecords.filter (·.id ∈ ["0", "0.0", "0.1"])) ∧
    (replayPage brokenSend 7 page).requests = 3 ∧ (replayPage brokenSend 7 page).failures = 1 ∧
    (replayPage brokenSend 7 page).totalBytes = 127 := by
  have built : Trace.Page.ofRecords? brokenRecords = some ⟨brokenRecords⟩ := rfl
  have distinct : (brokenRecords.map (·.id)).Nodup := by decide +kernel
  have root : ∃ root ∈ brokenRecords,
      root.id = Trace.Page.rootId ∧ root.parentId = Trace.Page.rootId :=
    ⟨⟨"0", "0", 64, .zero, "g"⟩, by decide +kernel, rfl, rfl⟩
  obtain ⟨_, _, ends, _, inOrder⟩ := replay_exact brokenSend 3 built distinct root
  obtain ⟨last, reached, released, exact⟩ := inOrder 7 (Nat.le_refl _)
  have asked : last.state.asked.Perm (brokenRecords.filter (·.id ∈ ["0", "0.0", "0.1"])) := by
    refine (List.perm_ext_iff_of_nodup exact.once.of_map (distinct.of_map.filter _)).mpr fun asset => ?_
    rw [← brokenRecords_due]
    exact ⟨exact.due asset, exact.all asset⟩
  have failed : (brokenRecords.filter (·.id ∈ ["0", "0.0", "0.1"])).countP
      (fun asset => !(brokenSend asset).isOk) = 1 := by decide +kernel
  refine ⟨_, last, built, ends, reached, released, exact, asked, ?_, ?_, exact.totalBytes⟩
  · rw [exact.requests, asked.length_eq]
    rfl
  · rw [exact.failures, asked.countP_eq, failed]

end PageLoad.Replay

import PageLoad.Proofs.Replay.Exact
import PageLoad.Proofs.Work.InOrder

/-!
A page that is replayed in order is replayed by the first of several workers.
-/

namespace PageLoad.Replay
open Fetch Number Trace Work

variable {send : Send} {page : Trace.Page}

theorem pushAll_eq (queue : Queue String) (ids : List String) : pushAll queue ids = queue.pushAll ids := rfl

namespace Progress

variable {progress : Progress} {queue : Queue String}

theorem spread_reaches (send : Send) (page : Trace.Page) (mirrors : progress.queue.Mirrors queue)
    (ids : List String) (others : List (Stage Job)) (watch : Watch) :
    ∃ last : Progress, last.queue.Mirrors (pushAll queue ids) ∧ last.notes = progress.notes ∧
      Crew.Reaches (trade send page) ⟨progress, .busy (.spread ids) :: others, watch⟩
        ⟨last, .finishing :: others, watch⟩ := by
  induction ids generalizing progress queue with
  | nil =>
    have spread : (trade send page).turn progress (.busy (.spread [])) = some (progress, .finishing) := rfl
    exact ⟨progress, mirrors, rfl, Crew.reaches_first others watch spread⟩
  | cons id rest ih =>
    have grown : Progress.queue { progress with queue := progress.queue.push id } |>.Mirrors
      (queue.push id) := mirrors.push id
    obtain ⟨last, mirrored, notes, reached⟩ := ih grown
    have queued : (trade send page).turn progress (.busy (.spread (id :: rest))) =
      some ({ progress with queue := progress.queue.push id }, .busy (.spread rest)) := rfl
    exact ⟨last, mirrored, notes, (Crew.reaches_first others watch queued).trans reached⟩

theorem visit_reaches (send : Send) (mirrors : progress.queue.Mirrors queue) {id : String} {asset : Asset}
    (found : page.asset? id = some asset) (others : List (Stage Job)) (watch : Watch) :
    ∃ last : Progress, last.queue.Mirrors (if (Visit.make send asset).failure.isNone then
        pushAll queue (page.children id) else queue) ∧
      last.visits = progress.visits ++ [Visit.make send asset] ∧
      Crew.Reaches (trade send page) ⟨progress, .busy (.look id) :: others, watch⟩
        ⟨last, .finishing :: others, watch⟩ := by
  have asking : (trade send page).turn progress (.busy (.look id)) =
      some (progress.note (.asked asset), .busy (.await asset)) := by
    simp [tradeOf, Trade.turn, act, found]
  have silent : (progress.note (.asked asset)).visits = progress.visits :=
    visits_note_of_none progress rfl
  cases sent : send asset with
  | ok _ =>
    have arriving : (trade send page).turn (progress.note (.asked asset)) (.busy (.await asset)) =
        some ((progress.note (.asked asset)).note (.arrived asset),
          .busy (.spread (page.children asset.id))) := by
      simp [tradeOf, Trade.turn, act, sent]
    have made : Visit.make send asset = ⟨asset, none⟩ := by rw [Visit.make, sent]
    have arrived : ((progress.note (.asked asset)).note (.arrived asset)).queue.Mirrors queue := mirrors
    obtain ⟨last, mirrored, notes, reached⟩ :=
      spread_reaches send page arrived (page.children asset.id) others watch
    rw [(Trace.Page.mem_of_asset? found).2] at mirrored
    refine ⟨last, by rw [made]; exact mirrored, ?_, (Crew.reaches_first others watch asking).trans
      ((Crew.reaches_first others watch arriving).trans reached)⟩
    rw [visits, notes, made, ← silent]
    exact visits_note _ _
  | error failure =>
    have failing : (trade send page).turn (progress.note (.asked asset)) (.busy (.await asset)) =
        some ((progress.note (.asked asset)).note (.failed asset failure), .finishing) := by
      simp [tradeOf, Trade.turn, act, sent]
    have made : Visit.make send asset = ⟨asset, some failure⟩ := by rw [Visit.make, sent]
    refine ⟨_, by rw [made]; exact mirrors, ?_, (Crew.reaches_first others watch asking).trans
      (Crew.reaches_first others watch failing)⟩
    rw [made, ← silent]
    exact visits_note _ _

theorem take_reaches (send : Send) (page : Trace.Page) (mirrors : progress.queue.Mirrors queue)
    {id : String} {rest : List String} (items : queue.items = id :: rest) (others : List (Stage Job)) (watch : Watch) :
    ∃ begun : Progress, begun.queue.Mirrors { queue with items := rest } ∧
      begun.visits = progress.visits ∧
      Crew.Reaches (trade send page) ⟨progress, .idle :: others, watch⟩
        ⟨begun, .busy (.look id) :: others, watch⟩ := by
  have first : ((trade send page).queue progress).items = id :: rest := mirrors.items.trans items
  exact ⟨{ progress with queue := { progress.queue with permit := false, items := rest } },
    mirrors.take rest, rfl, Crew.reaches_first others watch (Trade.turn_idle first)⟩

theorem walk_reaches (send : Send) (page : Trace.Page) (mirrors : progress.queue.Mirrors queue)
    (limit : Nat) (others : List (Stage Job)) (watch : Watch)
    (sound : Crew.Sound (trade send page) ⟨progress, .idle :: others, watch⟩) :
    ∃ last : Progress, last.queue.Mirrors (walk send page limit queue).1 ∧
      last.visits = progress.visits ++ (walk send page limit queue).2 ∧
      Crew.Reaches (trade send page) ⟨progress, .idle :: others, watch⟩
        ⟨last, .idle :: others, watch⟩ := by
  induction limit generalizing progress queue with
  | zero => exact ⟨progress, mirrors, (List.append_nil _).symm, .refl _⟩
  | succ limit ih =>
    cases items : queue.items with
    | nil =>
      have empty : queue.take? = none := by simp [Queue.take?, items]
      simp only [walk, empty]
      exact ⟨progress, mirrors, (List.append_nil _).symm, .refl _⟩
    | cons id rest =>
      have first : queue.take? = some (id, { queue with items := rest }) := by
        simp [Queue.take?, items]
      obtain ⟨begun, started, before, taking⟩ := take_reaches send page mirrors items others watch
      have finishing {worked : Progress} (doing : Crew.Reaches (trade send page)
          ⟨begun, .busy (.look id) :: others, watch⟩ ⟨worked, .finishing :: others, watch⟩) :
          Crew.Reaches (trade send page) ⟨progress, .idle :: others, watch⟩
            ⟨{ worked with queue := worked.queue.release }, .idle :: others, watch⟩ := by
        have busy := ((taking.trans doing).sound sound).busy List.mem_cons_self rfl
        exact taking.trans (doing.trans (Crew.reaches_first others watch (Trade.turn_finishing busy)))
      simp only [walk, first]
      cases found : page.asset? id with
      | none =>
        have passing : (trade send page).turn begun (.busy (.look id)) = some (begun, .finishing) := by
          simp [tradeOf, Trade.turn, act, found]
        have toNext := finishing (Crew.reaches_first others watch passing)
        obtain ⟨last, mirrored, visits, walking⟩ := ih started.release (toNext.sound sound)
        refine ⟨last, mirrored, ?_, toNext.trans walking⟩
        rw [visits, ← before]
        rfl
      | some asset =>
        obtain ⟨worked, working, after, doing⟩ :=
          visit_reaches send started found others watch
        have toNext := finishing doing
        obtain ⟨last, mirrored, visits, walking⟩ := ih working.release (toNext.sound sound)
        refine ⟨last, mirrored, ?_, toNext.trans walking⟩
        rw [visits, ← before, List.append_cons, ← after]
        rfl

end Progress

theorem walk_stops (send : Send) (page : Trace.Page) (limit : Nat) (queue : Queue String)
    (known : ∀ id ∈ queue.items, id ∈ page.records.map (·.id)) :
    (walk send page limit queue).1.items = [] ∨ (walk send page limit queue).2.length = limit := by
  induction limit generalizing queue with
  | zero => exact .inr rfl
  | succ limit ih =>
    cases items : queue.items with
    | nil =>
      have empty : queue.take? = none := by simp [Queue.take?, items]
      simp only [walk, empty]
      exact .inl items
    | cons id rest =>
      have first : queue.take? = some (id, { queue with items := rest }) := by
        simp [Queue.take?, items]
      rw [items] at known
      obtain ⟨asset, found⟩ := Trace.Page.asset?_isSome (known id List.mem_cons_self)
      simp only [walk, first, found, List.length_cons, Nat.add_right_cancel_iff]
      refine ih _ fun other member => ?_
      change other ∈ (if _ then pushAll { queue with items := rest } (page.children id) else
        { queue with items := rest }).items at member
      split at member
      · rw [pushAll_eq, Queue.pushAll_items, List.mem_append] at member
        rcases member with old | child
        · exact known other (List.mem_cons_of_mem _ old)
        · obtain ⟨asset, recorded, same, _⟩ := Trace.Page.mem_children.mp child
          exact List.mem_map.mpr ⟨asset, recorded, same⟩
      · exact known other (List.mem_cons_of_mem _ member)

theorem Progress.Accounted.length_le (root : ∃ root, page.root? = some root) {progress : Progress}
    (accounted : Accounted page progress 0) :
    progress.queue.items.length + progress.visits.length ≤ page.records.length := by
  have few : (progress.released page).length ≤ (page.records.map (·.id)).length :=
    (List.subperm_of_subset accounted.once fun _ known =>
      recorded_of_released root known).length_le
  have ids := congrArg Multiset.card accounted.ids
  have visits := congrArg Multiset.card accounted.visits
  simp only [Multiset.coe_card, Multiset.card_add, Multiset.zero_bind, Multiset.card_zero, Job.awaited,
    Multiset.filterMap_zero, List.length_map, Nat.add_zero] at few ids visits
  omega

/-- In order, a replay comes to the end of a page, if nothing is released twice and the limit leaves
room for all of its assets. -/
theorem walk_drained (send : Send) (root : ∃ root, page.root? = some root)
    (accounted : ∀ now, Crew.Reaches (trade send page) (crew Trace.Page.rootId 1) now →
      Progress.Accounted page now.state now.jobs) {limit : Nat} (room : page.records.length ≤ limit) :
    ∃ last : Progress, last.visits = (walk send page limit (Queue.empty.push Trace.Page.rootId)).2 ∧
      Crew.Reaches (trade send page) (crew Trace.Page.rootId 1) ⟨last, [.idle], .joining⟩ ∧
      last.queue.outstanding = 0 := by
  have sound := crew_sound (fun _ => send) page Trace.Page.rootId 1
  have fresh : (Progress.start Trace.Page.rootId).queue.Mirrors (Queue.empty.push Trace.Page.rootId) :=
    ⟨⟨true, rfl⟩, rfl⟩
  obtain ⟨last, mirrors, visits, reached⟩ :=
    Progress.walk_reaches send page fresh limit [] .joining sound
  change Crew.Reaches (trade send page) (crew Trace.Page.rootId 1) ⟨last, [.idle], .joining⟩ at reached
  have counted := (reached.sound sound).outstanding
  change last.queue.outstanding = last.queue.items.length + 0 at counted
  have booked : Progress.Accounted page last 0 := accounted _ reached
  have known : ∀ id ∈ (Queue.empty.push Trace.Page.rootId).items, id ∈ page.records.map (·.id) := by
    intro id member
    obtain ⟨root, isRoot⟩ := root
    obtain ⟨recorded, named⟩ := Trace.Page.mem_of_asset? isRoot
    exact List.mem_map.mpr ⟨root, recorded, named.trans (List.mem_singleton.mp member).symm⟩
  -- at the limit every asset has been visited, so nothing can be queued either
  have empty : last.queue.items = [] := by
    obtain empty | full := walk_stops send page limit _ known
    · exact mirrors.items.trans empty
    · have few := booked.length_le root
      rw [visits, List.length_append, full] at few
      exact List.length_eq_zero_iff.mp (by omega)
  exact ⟨last, visits.trans (List.nil_append _), reached, by rw [counted, empty]; rfl⟩

theorem walk_finished (send : Send) (grounded : page.IsGrounded) {limit : Nat}
    (room : page.records.length ≤ limit) :
    ∃ last : Progress, last.visits = (walk send page limit (Queue.empty.push Trace.Page.rootId)).2 ∧
      Crew.Reaches (trade send page) (crew Trace.Page.rootId 1) ⟨last, [.idle], .joining⟩ ∧
      last.queue.outstanding = 0 := by
  refine walk_drained send grounded.root_isSome ?_ room
  rintro now ⟨_, ran⟩
  exact Crew.run_keeps (Progress.accounted_keeps _ grounded) (crew_accounted page 1) ran

theorem replayPage_replayed (client : Client) (network : Http.Network) (grounded : page.IsGrounded)
    {limit : Nat} (room : page.records.length ≤ limit) :
    ∃ replayed : Replayed, replayed.page = page ∧ replayed.network = network ∧
      replayed.IsBy client 1 ∧
      replayPage (client.send network) limit page = replayed.outcome := by
  obtain ⟨root, isRoot⟩ := grounded.root_isSome
  have named : root.id = Trace.Page.rootId := (Trace.Page.mem_of_asset? isRoot).2
  obtain ⟨last, visits, reached, done⟩ := walk_finished (client.send network) grounded room
  obtain ⟨schedule, ran⟩ :=
    reached.trans (Crew.reaches_closing (trade (client.send network) page) _ done)
  refine ⟨⟨page, network, last, .zero⟩, rfl, rfl, ?_, ?_⟩
  · simp only [Replayed.IsBy, isRoot, named]
    exact ⟨schedule, _, ran, rfl, rfl⟩
  · simp only [replayPage, isRoot, named, Replayed.outcome, visits]

theorem runSteps_replayed (client : Client) (network : Http.Network) {limit : Nat} {steps : List Step}
    (fits : ∀ page, .page page ∈ steps → page.IsGrounded ∧ page.records.length ≤ limit) :
    ∃ replays : List Replayed, replays.map (·.page) = steps.filterMap pageOf? ∧
      (∀ replayed ∈ replays, replayed.IsBy client 1 ∧ replayed.network = network) ∧
      (steps.flatMap (runStep (client.send network) limit)).filterMap (·.line?) =
        replays.map (·.outcome.line) := by
  induction steps with
  | nil => exact ⟨[], rfl, by simp, rfl⟩
  | cons step steps ih =>
    obtain ⟨replays, pages, replayed, lines⟩ := ih fun page member => fits page (.tail _ member)
    rw [List.flatMap_cons, List.filterMap_append, lines]
    cases step with
    | page page =>
      have ⟨grounded, room⟩ := fits page (.head _)
      obtain ⟨first, same, asked, alone, outcome⟩ := replayPage_replayed client network grounded room
      refine ⟨first :: replays, by rw [List.map_cons, pages, same]; rfl, ?_, ?_⟩
      · intro other member
        rcases List.mem_cons.mp member with rfl | old
        · exact ⟨alone, asked⟩
        · exact replayed other old
      · rw [List.map_cons, ← outcome]
        rfl
    | skipped line error => exact ⟨replays, pages, replayed, rfl⟩
    | overflow => exact ⟨replays, pages, replayed, rfl⟩
    | unreadable flaw => exact ⟨replays, pages, replayed, rfl⟩

theorem run_replays (client : Client) (network : Http.Network) (limit : Nat) (input : List UInt8)
    (fits : ∀ page, .page page ∈ Trace.read input → page.IsGrounded ∧ page.records.length ≤ limit) :
    ∃ replays, Replays client 1 input replays ∧
      (∀ replayed ∈ replays, replayed.network = network) ∧
      output (run (client.send network) limit input) = printed replays := by
  obtain ⟨replays, pages, replayed, lines⟩ := runSteps_replayed client network fits
  exact ⟨replays, ⟨pages, fun one member => (replayed one member).1⟩,
    fun one member => (replayed one member).2, congrArg (heading :: ·) lines⟩

end PageLoad.Replay

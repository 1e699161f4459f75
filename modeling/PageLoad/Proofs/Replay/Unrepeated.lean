import PageLoad.Proofs.Replay.Ending
import Mathlib.Data.List.Permutation

/-!
Which replays ask for nothing twice. Records may list an asset more than once; a replay ends with at
most one request for each id just if nothing that it comes to is listed twice.
-/

namespace PageLoad.Replay
open Fetch Trace Work Relation

variable {send : Send} {answers : Answers} {page : Trace.Page} {id : String}

theorem eq_of_nodup_flatMap {α β : Type} {list : List α} {parts : α → List β}
    (distinct : (list.flatMap parts).Nodup) {a b : α} (left : a ∈ list) (right : b ∈ list) {part : β}
    (first : part ∈ parts a) (second : part ∈ parts b) : a = b := by
  obtain ⟨_, apart⟩ := List.nodup_flatMap.mp distinct
  have symmetric : Std.Symm (Function.onFun List.Disjoint parts) :=
    ⟨fun _ _ away => List.Disjoint.symm away⟩
  by_contra differ
  exact apart.forall left right differ first second

/-- Nothing that a replay comes to is listed twice, be it below one asset or below two, and the root is
not listed below any. -/
structure IsUnrepeated (send : Send) (page : Trace.Page) : Prop where
  listed : ∀ id, IsReached send page id → Arrives send page id → (page.children id).Nodup
  root : ∀ id, IsReached send page id → ¬ Leads send page id Trace.Page.rootId
  parent : ∀ id other child, IsReached send page id → IsReached send page other →
    Leads send page id child → Leads send page other child → id = other

namespace Progress

variable {progress : Progress}

structure Unrepeated (send : Send) (page : Trace.Page) (progress : Progress) (jobs : Multiset Job) : Prop
    extends Traced send page progress jobs where
  once : (progress.released page).Nodup

theorem Unrepeated.accounted {jobs : Multiset Job} (unrepeated : Unrepeated send page progress jobs) :
    Accounted page progress jobs := ⟨unrepeated.toBooked, unrepeated.once⟩

theorem unrepeated_keeps (within : answers.Within send) (root : ∃ root, page.root? = some root)
    (single : IsUnrepeated send page) : (tradeOf answers page).Keeps (Unrepeated send page) where
  keep unrepeated same := ⟨(traced_keeps within root).keep unrepeated.toTraced same, unrepeated.once⟩
  take unrepeated first := ⟨(traced_keeps within root).take unrepeated.toTraced first, unrepeated.once⟩
  act {progress job jobs} unrepeated := by
    refine ⟨(traced_keeps within root).act unrepeated.toTraced, unrepeated.accounted.once_act ?_⟩
    rintro asset rfl succeeded
    have asked := unrepeated.asked_of_awaited
    have reached := unrepeated.reached_of_asked asked
    have arrives := unrepeated.arrives_of_asked asked (within _ asset succeeded)
    refine unrepeated.accounted.once_arrived (single.listed _ reached arrives)
      (fun child => single.root _ reached ⟨arrives, child⟩) fun parent arrived id child other => ?_
    obtain ⟨met, came⟩ := unrepeated.arrives_of_arrived arrived
    exact single.parent _ _ id reached met ⟨arrives, child⟩ ⟨came, other⟩

theorem Drained.asked_of_reached (drained : Drained send page progress)
    (reached : IsReached send page id) : ∃ asset ∈ progress.asked, asset.id = id := by
  have asked {id : String} (released : id ∈ progress.released page) :
      ∃ asset ∈ progress.asked, asset.id = id :=
    List.mem_map.mp (drained.released_perm.mem_iff.mp released)
  induction reached with
  | refl => exact asked List.mem_cons_self
  | tail _ leads ih =>
    obtain ⟨asset, known, rfl⟩ := ih
    obtain ⟨⟨other, found, sent⟩, listed⟩ := leads
    obtain rfl := Option.some.inj (found.symm.trans (drained.booked.found asset known))
    exact asked (mem_released.mpr (.inr ⟨other, drained.arrived known sent, listed⟩))

theorem Drained.arrived_of_arrives (drained : Drained send page progress)
    (reached : IsReached send page id) (arrives : Arrives send page id) :
    ∃ asset ∈ progress.arrived, asset.id = id := by
  obtain ⟨asset, known, rfl⟩ := drained.asked_of_reached reached
  obtain ⟨other, found, sent⟩ := arrives
  obtain rfl := Option.some.inj (found.symm.trans (drained.booked.found asset known))
  exact ⟨other, mem_arrived.mpr (drained.arrived known sent), rfl⟩

/-- When nothing is left to do and nothing has been asked for twice, nothing is listed twice. -/
theorem Drained.isUnrepeated (drained : Drained send page progress)
    (once : (progress.asked.map (·.id)).Nodup) : IsUnrepeated send page := by
  have distinct := drained.released_perm.nodup_iff.mpr once
  rw [released, List.nodup_cons] at distinct
  obtain ⟨root, below⟩ := distinct
  refine ⟨?_, ?_, ?_⟩
  · intro id reached arrives
    obtain ⟨asset, arrived, rfl⟩ := drained.arrived_of_arrives reached arrives
    exact (List.nodup_flatMap.mp below).1 asset arrived
  · rintro id reached ⟨arrives, child⟩
    obtain ⟨asset, arrived, rfl⟩ := drained.arrived_of_arrives reached arrives
    exact root (List.mem_flatMap.mpr ⟨asset, arrived, child⟩)
  · rintro id other child reached reached' ⟨arrives, first⟩ ⟨arrives', second⟩
    obtain ⟨asset, arrived, rfl⟩ := drained.arrived_of_arrives reached arrives
    obtain ⟨asset', arrived', rfl⟩ := drained.arrived_of_arrives reached' arrives'
    have same := eq_of_nodup_flatMap below arrived arrived' first second
    exact congrArg (·.id) same

end Progress

theorem reached_unrepeated (within : answers.Within send) (root : ∃ root, page.root? = some root)
    (single : IsUnrepeated send page) {workers : Nat} {now : Crew Progress Job}
    (reached : Crew.Reaches (tradeOf answers page) (crew Trace.Page.rootId workers) now) :
    Progress.Unrepeated send page now.state now.jobs := by
  obtain ⟨_, ran⟩ := reached
  refine Crew.run_keeps (Progress.unrepeated_keeps within root single) ⟨crew_traced send page workers, ?_⟩ ran
  exact List.nodup_singleton _

theorem isUnrepeated_of_grounded (send : Send) (grounded : page.IsGrounded) : IsUnrepeated send page where
  listed _ _ _ := Trace.Page.children_nodup grounded.distinct
  root _ _ leads := grounded.rootId_not_mem_children leads.2
  parent _ _ _ _ _ first second := grounded.parent_unique first.2 second.2

/-- Whether the workers of a page come to its end, with at most one request for each recorded id. -/
structure AsksOnce (answers : Answers) (page : Trace.Page) (id : String) (workers : Nat) : Prop where
  ends : (crew id workers).Ends (tradeOf answers page)
  once : ∀ now, Crew.Reaches (tradeOf answers page) (crew id workers) now →
    (now.state.asked.map (·.id)).Nodup ∧ ∀ asset ∈ now.state.asked, asset ∈ page.records

theorem asksOnce_of_isUnrepeated (within : answers.Within send) (root : ∃ root, page.root? = some root)
    (single : IsUnrepeated send page) {workers : Nat} (staffed : workers ≠ 0) :
    AsksOnce answers page Trace.Page.rootId workers := by
  refine ⟨?_, fun now reached => ?_⟩
  · have paid : (tradeOf answers page).Spends (Progress.Unrepeated send page) Job.cost
        (Progress.budget page) :=
      ⟨spends.keep, fun unrepeated => spends.act unrepeated.accounted⟩
    refine Crew.ends (Progress.unrepeated_keeps within root single) paid (crew_sound _ _ _ _)
      (Crew.start_staffed _ staffed) ?_
    exact reached_unrepeated within root single (Crew.Reaches.refl _)
  · have unrepeated := reached_unrepeated within root single reached
    exact ⟨unrepeated.accounted.asked_nodup, unrepeated.known⟩

theorem isUnrepeated_of_asksOnce (root : ∃ root, page.root? = some root) {workers : Nat}
    (asks : AsksOnce (fun _ => send) page Trace.Page.rootId workers) : IsUnrepeated send page := by
  obtain ⟨last, reached, through⟩ := asks.ends.exists_through
  have sound := reached.sound (crew_sound (fun _ => send) page _ workers)
  have done := sound.released (by rw [through]; rfl)
  have booked := (reached_traced (Answers.within_self send) root reached).toBooked
  rw [sound.idle done] at booked
  obtain ⟨_, ran⟩ := id reached
  have truthful := Crew.run_keeps (truthful_keeps send page) (fun _ member => by cases member) ran
  have drained : Progress.Drained send page last.state := ⟨booked, truthful, (sound.quiet done).1⟩
  exact drained.isUnrepeated (asks.once last reached).1

/-- Requests for one asset need not end alike, so what can be said beforehand is for which assets one may
succeed: those for which one asks `send` with success. A replay ends whichever of these requests succeed just
if nothing that it may come to leads back to itself, and then does so with at most one request for each
recorded id just if nothing that it may come to is listed twice; if it does when all of them succeed, it
does whichever succeed. Nothing is listed twice where ids differ and the root was recorded as its own
parent. Then the page is also replayed to its end in order. Without a root nothing is asked for. -/
theorem replay_once_iff (send : Send) (page : Trace.Page) (workers : Nat) :
    (page.root? = none → ∀ limit, (replayPage send limit page).visits = []) ∧
    ∀ root, page.root? = some root → root.id = Trace.Page.rootId ∧
      ((∀ answers : Answers, answers.Within send →
        (crew root.id (max workers 1)).Ends (tradeOf answers page)) ↔ IsAcyclic send page) ∧
      ((crew root.id (max workers 1)).Ends (trade send page) ↔ IsAcyclic send page) ∧
      ((∀ answers : Answers, answers.Within send → AsksOnce answers page root.id (max workers 1)) ↔
        IsUnrepeated send page) ∧
      (AsksOnce (fun _ => send) page root.id (max workers 1) ↔ IsUnrepeated send page) ∧
      (page.IsGrounded → IsUnrepeated send page) ∧
      (IsUnrepeated send page → ∀ limit, page.records.length ≤ limit →
        ∃ last, Crew.Reaches (trade send page) (crew root.id 1) last ∧
          last.watch.isReleased = true ∧
          replayPage send limit page = ⟨page, last.state.visits, .zero⟩) := by
  constructor
  · intro rootless limit
    simp only [replayPage, rootless]
  · intro root isRoot
    have named : root.id = Trace.Page.rootId := (Trace.Page.mem_of_asset? isRoot).2
    have rooted : ∃ root, page.root? = some root := ⟨root, isRoot⟩
    have self := Answers.within_self send
    have staffed : max workers 1 ≠ 0 := by omega
    rw [named]
    refine ⟨rfl, ⟨?_, ?_⟩, ⟨?_, ?_⟩, ⟨?_, ?_⟩, ⟨?_, ?_⟩, isUnrepeated_of_grounded send, ?_⟩
    · intro ends
      exact acyclic_of_ends rooted (ends _ self)
    · intro acyclic answers within
      exact ends_of_acyclic within rooted acyclic workers
    · exact acyclic_of_ends rooted
    · intro acyclic
      exact ends_of_acyclic self rooted acyclic workers
    · intro asks
      exact isUnrepeated_of_asksOnce rooted (asks _ self)
    · intro single answers within
      exact asksOnce_of_isUnrepeated within rooted single staffed
    · exact isUnrepeated_of_asksOnce rooted
    · intro single
      exact asksOnce_of_isUnrepeated self rooted single staffed
    · intro single limit room
      obtain ⟨last, visits, reached, done⟩ := walk_drained send rooted
        (fun now reached => (reached_unrepeated self rooted single reached).accounted) room
      have ended := reached.trans (Crew.reaches_closing (trade send page) _ done)
      have outcome : replayPage send limit page = ⟨page, last.visits, .zero⟩ := by
        simp only [replayPage, isRoot, named, visits]
      exact ⟨_, ended, rfl, outcome⟩

/-! Two inputs that list something twice: an asset that was recorded twice, and a root below its own
child. -/

def twiceInput : List UInt8 :=
  ("0,0,0,text/html,1,0.00,http://a/\n0.0,0,1,image/png,1,0.00,http://a/x.png\n" ++
    "0.0,0,1,image/png,1,0.00,http://a/x.png\n").toUTF8.toList

def twicePage : Trace.Page :=
  ⟨[⟨"0", "0", 1, .zero, "http://a/"⟩, ⟨"0.0", "0", 1, .zero, "http://a/x.png"⟩,
    ⟨"0.0", "0", 1, .zero, "http://a/x.png"⟩]⟩

def loopInput : List UInt8 :=
  "0,0.0,0,text/html,1,0.00,http://a/\n0.0,0,1,text/html,1,0.00,http://a/f.html\n".toUTF8.toList

def loopPage : Trace.Page :=
  ⟨[⟨"0", "0.0", 1, .zero, "http://a/"⟩, ⟨"0.0", "0", 1, .zero, "http://a/f.html"⟩]⟩

/-- If all requests succeed, the first is replayed with two requests for one asset, and the second
without end. -/
theorem replay_not_once :
    (Trace.read twiceInput = [.page twicePage] ∧
      ∃ last, Crew.Reaches (trade (fun _ => .ok ()) twicePage) (crew Trace.Page.rootId 1) last ∧
        last.watch = .through ∧ last.state.asked.map (·.id) = ["0", "0.0", "0.0"]) ∧
    Trace.read loopInput = [.page loopPage] ∧
      ¬ (crew Trace.Page.rootId 1).Ends (trade (fun _ => .ok ()) loopPage) := by
  refine ⟨⟨by decide +kernel, ?_⟩, by decide +kernel, fun ends => ?_⟩
  · have ran : ((crew Trace.Page.rootId 1).run? (trade (fun _ => .ok ()) twicePage)
        (List.replicate 17 (.worker 0) ++ [.overseer, .overseer])).map
        (fun last => (last.watch, last.state.asked.map (·.id))) =
          some (.through, ["0", "0.0", "0.0"]) := by cbv
    obtain ⟨last, ran, same⟩ := Option.map_eq_some_iff.mp ran
    exact ⟨last, ⟨_, ran⟩, congrArg (·.1) same, congrArg (·.2) same⟩
  · have down : Leads (fun _ => .ok ()) loopPage "0" "0.0" := ⟨⟨_, rfl, rfl⟩, by decide +kernel⟩
    have up : Leads (fun _ => .ok ()) loopPage "0.0" "0" := ⟨⟨_, rfl, rfl⟩, by decide +kernel⟩
    exact acyclic_of_ends ⟨_, rfl⟩ ends "0" .refl (.tail (.single down) up)

end PageLoad.Replay

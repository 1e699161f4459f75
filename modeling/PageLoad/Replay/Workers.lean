import PageLoad.Replay.Client
import PageLoad.Replay.Run
import PageLoad.Work.Crew

/-!
A replay in which several workers share each page. A worker that waits for an asset holds up none
of the others.
-/

namespace PageLoad.Replay
open Fetch Http Number Trace Work

inductive Note where
  | asked (asset : Asset)
  | arrived (asset : Asset)
  | failed (asset : Asset) (failure : Failure)

def Note.visit? : Note → Option Visit
  | .asked _ => none
  | .arrived asset => some ⟨asset, none⟩
  | .failed asset failure => some ⟨asset, some failure⟩

def Note.asked? : Note → Option Asset
  | .asked asset => some asset
  | .arrived _ | .failed _ _ => none

structure Progress where
  queue : Queue String
  notes : List Note

inductive Job where
  | look (id : String)
  | await (asset : Asset)
  | spread (ids : List String)

namespace Progress

def start (id : String) : Progress := ⟨Queue.empty.push id, []⟩

def note (progress : Progress) (note : Note) : Progress :=
  { progress with notes := progress.notes ++ [note] }

def asked (progress : Progress) : List Asset := progress.notes.filterMap (·.asked?)

def visits (progress : Progress) : List Visit := progress.notes.filterMap (·.visit?)

/-- The next action for an id. What was never recorded is passed over, and the children of an asset
follow once it has arrived. -/
def act (send : Send) (page : Trace.Page) (progress : Progress) : Job → Progress × Option Job
  | .look id =>
    match page.asset? id with
    | none => (progress, none)
    | some asset => (progress.note (.asked asset), some (.await asset))
  | .await asset =>
    match send asset with
    | .ok () => (progress.note (.arrived asset), some (.spread (page.children asset.id)))
    | .error failure => (progress.note (.failed asset failure), none)
  | .spread (id :: rest) =>
    ({ progress with queue := progress.queue.push id }, some (.spread rest))
  | .spread [] => (progress, none)

end Progress

/-- What asking for assets gives, by how many requests have come to an end before. An asset that is asked
for again may be answered otherwise. -/
abbrev Answers := Nat → Send

def tradeOf (answers : Answers) (page : Trace.Page) : Trade Progress String Job where
  queue := Progress.queue
  withQueue progress queue := { progress with queue }
  jobOf := .look
  act progress := progress.act (answers progress.visits.length) page
  queue_withQueue _ _ := rfl
  act_pushes progress job := by
    cases job with
    | look id =>
      refine ⟨[], ?_⟩
      simp only [Progress.act]
      cases page.asset? id <;> rfl
    | await asset =>
      refine ⟨[], ?_⟩
      simp only [Progress.act]
      cases answers progress.visits.length asset <;> rfl
    | spread ids =>
      cases ids with
      | nil => exact ⟨[], rfl⟩
      | cons id rest => exact ⟨[id], rfl⟩

/-- How they go about it when an asset is answered alike whenever it is asked for. -/
abbrev trade (send : Send) (page : Trace.Page) : Trade Progress String Job := tradeOf (fun _ => send) page

def crew (id : String) (workers : Nat) : Crew Progress Job := .start (.start id) workers

structure Replayed where
  page : Trace.Page
  network : Network
  progress : Progress
  elapsed : Double

namespace Replayed

def outcome (replayed : Replayed) : Outcome :=
  ⟨replayed.page, replayed.progress.visits, replayed.elapsed⟩

def requests (client : Client) (replayed : Replayed) : List (Url × Request) :=
  replayed.progress.asked.flatMap fun asset =>
    client.agent.requests replayed.network (Client.fields asset) maxRedirects client.endpoint

/-- Whether the page is one that some workers have come to the end of. Without a root there is
nothing to do. -/
def IsBy (client : Client) (workers : Nat) (replayed : Replayed) : Prop :=
  match replayed.page.root? with
  | none => replayed.progress.notes = []
  | some root => ∃ schedule last,
    (crew root.id workers).run? (trade (client.send replayed.network) replayed.page) schedule =
      some last ∧ last.watch.isReleased = true ∧ replayed.progress = last.state

end Replayed

def pageOf? : Step → Option Trace.Page
  | .page page => some page
  | .skipped _ _ | .overflow | .unreadable _ => none

/-- Whether some pages are what comes of an input: all that can be read from it, in order. -/
structure Replays (client : Client) (workers : Nat) (input : List UInt8) (replays : List Replayed) :
    Prop where
  pages : replays.map (·.page) = (Trace.read input).filterMap pageOf?
  replayed : ∀ replayed ∈ replays, replayed.IsBy client workers

def printed (replays : List Replayed) : List String :=
  heading :: replays.map (·.outcome.line)

end PageLoad.Replay

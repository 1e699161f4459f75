import PageLoad.Fetch.Failure
import PageLoad.Log
import PageLoad.Number.Duration
import PageLoad.Trace.Page
import PageLoad.Work.Queue

/-!
The replay of one page. Its root is asked for first, and the children of an asset once that
asset has arrived; those of an asset that fails are left out.
-/

namespace PageLoad.Replay
open Fetch Number Trace Work

abbrev Send := Asset → Except Failure Unit

structure Visit where
  asset : Asset
  failure : Option Failure
  deriving DecidableEq, Repr

def Visit.make (send : Send) (asset : Asset) : Visit :=
  match send asset with
  | .ok () => ⟨asset, none⟩
  | .error failure => ⟨asset, some failure⟩

def pushAll (queue : Queue String) (ids : List String) : Queue String :=
  ids.foldl Queue.push queue

/-- Works through a queue of ids, which are at most `limit`. Returns what is left of the queue
and the visits in order. -/
def walk (send : Send) (page : Trace.Page) : Nat → Queue String → Queue String × List Visit
  | 0, queue => (queue, [])
  | limit + 1, queue =>
    match queue.take? with
    | none => (queue, [])
    | some (id, rest) =>
      match page.asset? id with
      | none => walk send page limit rest.release
      | some asset =>
        let visit := Visit.make send asset
        let queued := if visit.failure.isNone then pushAll rest (page.children id) else rest
        let (left, visits) := walk send page limit queued.release
        (left, visit :: visits)

structure Outcome where
  page : Trace.Page
  visits : List Visit
  elapsed : Double
  deriving DecidableEq, Repr

def replayPage (send : Send) (limit : Nat) (page : Trace.Page) : Outcome :=
  match page.root? with
  | none => ⟨page, [], .zero⟩
  | some root => ⟨page, (walk send page limit (Queue.empty.push root.id)).2, .zero⟩

def Visit.log? (visit : Visit) : Option LogEntry :=
  visit.failure.map fun failure =>
    ⟨.warn, "replay request failed, skipping its children: " ++ failure.message,
      [("asset", .text visit.asset.id), ("url", .text visit.asset.url)]⟩

namespace Outcome

def totalBytes (outcome : Outcome) : Nat := outcome.page.totalBytes

def requests (outcome : Outcome) : Nat := outcome.visits.length

def failures (outcome : Outcome) : Nat := outcome.visits.countP (·.failure.isSome)

def line (outcome : Outcome) : String :=
  outcome.elapsed.fixed ++ "," ++ toString outcome.totalBytes

def log (outcome : Outcome) : List LogEntry :=
  let rootless : List LogEntry :=
    if outcome.page.root?.isNone then
      [⟨.warn, "page has no root asset, nothing to replay",
        [("assets", .count outcome.page.size)]⟩]
    else []
  rootless ++ outcome.visits.filterMap (·.log?) ++
    [⟨.info, "page replayed",
      [("requests", .count outcome.requests), ("failures", .count outcome.failures)]⟩]

end Outcome

end PageLoad.Replay

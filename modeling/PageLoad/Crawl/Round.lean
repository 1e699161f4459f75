import PageLoad.Crawl.Report
import PageLoad.Crawl.Task
import PageLoad.Fetch.Site
import PageLoad.Number.Duration
import PageLoad.Work.Queue

/-!
The crawl of one seed: what has been seen, what is left to do, and the totals so far.
-/

namespace PageLoad.Crawl
open Number Work Fetch

structure Round where
  rank : String
  seedUrl : String
  seen : List String
  queue : Queue Task
  tasks : Nat
  /-- A count in 64 bits, which starts again at zero. -/
  bytes : Nat

namespace Round

/-- Queues a task, unless its URL has been offered before. URLs are compared as they are
written. -/
def offer (round : Round) (task : Task) : Round × Bool :=
  if round.seen.contains task.url then (round, false)
  else ({ round with seen := task.url :: round.seen, queue := round.queue.push task }, true)

def start (rank seedUrl : String) : Round :=
  (offer ⟨rank, seedUrl, [], .empty, 0, 0⟩ (Task.root seedUrl)).1

def record (round : Round) (bytes : Nat) : Round :=
  { round with tasks := round.tasks + 1, bytes := (round.bytes + bytes) % UInt64.size }

def summary (round : Round) (elapsed : Double) : RoundSummary :=
  ⟨round.rank, round.seedUrl, elapsed, round.tasks, round.bytes⟩

def offerChildren (round : Round) (task : Task) (index : Nat) : List String → Round
  | [] => round
  | url :: rest => (round.offer (task.child index url)).1.offerChildren task (index + 1) rest

end Round

inductive TaskEnd where
  | reported (report : TaskReport)
  | dropped (task : Task) (failure : Failure)
  | crashed (task : Task) (crash : Crash)

def TaskReport.ofPage (task : Task) (page : Page) : TaskReport where
  id := task.id
  parentId := task.parentId
  depth := task.depth
  contentType := page.contentType
  bytes := page.body.length
  elapsed := secondsOf page.elapsed
  url := task.url

namespace Round

/-- Does the work of one task: a page offers its assets before it is reported. -/
def process (round : Round) (task : Task) (outcome : Outcome) : Round × TaskEnd :=
  match outcome with
  | .failed failure => (round, .dropped task failure)
  | .crashed crash => (round, .crashed task crash)
  | .page page =>
    let report := TaskReport.ofPage task page
    ((round.offerChildren task 0 page.links).record report.bytes, .reported report)

def finish (round : Round) : Round := { round with queue := round.queue.release }

/-- Works through the queue in order. Returns what became of the tasks. `limit` bounds how many
tasks there are; a site leads to no more than its size. -/
def drain (fetch : String → Outcome) : Nat → Round → Round × List TaskEnd
  | 0, round => (round, [])
  | limit + 1, round =>
    match round.queue.take? with
    | none => (round, [])
    | some (task, queue) =>
      let (worked, taskEnd) := process { round with queue } task (fetch task.url)
      let (last, rest) := drain fetch limit worked.finish
      (last, taskEnd :: rest)

end Round

end PageLoad.Crawl

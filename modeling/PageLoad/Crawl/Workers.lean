import PageLoad.Crawl.Run
import PageLoad.Work.Crew

/-!
A round that several workers crawl together. Each goes through its tasks on its own, so the
assets of one page may be offered while another page is reported.
-/

namespace PageLoad.Crawl
open Number Work Fetch

structure Progress where
  round : Round
  accepted : List Task
  fetched : List String
  ends : List TaskEnd

def TaskReport.task (report : TaskReport) : Task :=
  ⟨report.id, report.parentId, report.depth, report.url⟩

namespace TaskEnd

def task : TaskEnd → Task
  | .reported report => report.task
  | .dropped task _ | .crashed task _ => task

def report? : TaskEnd → Option TaskReport
  | .reported report => some report
  | .dropped _ _ | .crashed _ _ => none

end TaskEnd

inductive Job where
  | fetch (task : Task)
  | offer (task : Task) (page : Page) (index : Nat) (rest : List String)
  | conclude (taskEnd : TaskEnd)

namespace Job

def task : Job → Task
  | .fetch task | .offer task _ _ _ => task
  | .conclude taskEnd => taskEnd.task

def awaited? : Job → Option String
  | .fetch task => some task.url
  | .offer _ _ _ _ | .conclude _ => none

def ofOutcome (task : Task) : Outcome → Job
  | .failed failure => .conclude (.dropped task failure)
  | .crashed crash => .conclude (.crashed task crash)
  | .page page => .offer task page 0 page.links

end Job

namespace Progress

def start (rank seedUrl : String) : Progress :=
  ⟨Round.start rank seedUrl, [Task.root seedUrl], [], []⟩

def fetchOf (progress : Progress) (url : String) : Progress :=
  { progress with fetched := progress.fetched ++ [url] }

def offer (progress : Progress) (task : Task) : Progress :=
  let (round, isNew) := progress.round.offer task
  { progress with
    round, accepted := if isNew then progress.accepted ++ [task] else progress.accepted }

def record (progress : Progress) (page : Page) : Progress :=
  { progress with round := progress.round.record page.body.length }

def conclude (progress : Progress) (taskEnd : TaskEnd) : Progress :=
  { progress with ends := progress.ends ++ [taskEnd] }

/-- The next action for a task. A failure leads to its end at once; a page offers its assets one by
one and is added to the totals before it is reported. -/
def act (fetch : String → Outcome) (progress : Progress) : Job → Progress × Option Job
  | .fetch task => (progress.fetchOf task.url, some (.ofOutcome task (fetch task.url)))
  | .offer task page index (url :: rest) =>
    (progress.offer (task.child index url), some (.offer task page (index + 1) rest))
  | .offer task page _ [] =>
    (progress.record page, some (.conclude (.reported (TaskReport.ofPage task page))))
  | .conclude taskEnd => (progress.conclude taskEnd, none)

end Progress

namespace Round

theorem offer_cases (round : Round) (task : Task) :
    (task.url ∈ round.seen ∧ round.offer task = (round, false)) ∨
    (task.url ∉ round.seen ∧ round.offer task =
      ({ round with seen := task.url :: round.seen, queue := round.queue.push task }, true)) := by
  by_cases known : task.url ∈ round.seen
  · exact .inl ⟨known, by simp [offer, known]⟩
  · exact .inr ⟨known, by simp [offer, known]⟩

end Round

def trade (fetch : String → Outcome) : Trade Progress Task Job where
  queue progress := progress.round.queue
  withQueue progress queue := { progress with round := { progress.round with queue } }
  jobOf := .fetch
  act := Progress.act fetch
  queue_withQueue _ _ := rfl
  act_pushes progress job := by
    cases job with
    | fetch task => exact ⟨[], rfl⟩
    | offer task page index rest =>
      cases rest with
      | nil => exact ⟨[], rfl⟩
      | cons url rest =>
        simp only [Progress.act, Progress.offer]
        obtain ⟨_, known⟩ | ⟨_, new⟩ := progress.round.offer_cases (task.child index url)
        · exact ⟨[], by simp [known, Queue.pushAll]⟩
        · exact ⟨[task.child index url], by simp [new, Queue.pushAll]⟩
    | conclude taskEnd => exact ⟨[], rfl⟩

def crew (rank seedUrl : String) (workers : Nat) : Crew Progress Job :=
  .start (.start rank seedUrl) workers

/-- A round that has been crawled, whatever fetching gave in it and however long it took. -/
structure Crawled where
  seed : Seed
  fetch : String → Outcome
  progress : Progress
  elapsed : Double

namespace Crawled

def reports (crawled : Crawled) : List TaskReport := crawled.progress.ends.filterMap (·.report?)

def summary (crawled : Crawled) : RoundSummary := crawled.progress.round.summary crawled.elapsed

def events (crawled : Crawled) : List Event :=
  .roundStart crawled.seed.rank crawled.seed.url.text :: crawled.reports.map .task ++
    [.roundEnd crawled.summary]

/-- Whether the round is one that some workers have come to the end of. -/
def IsBy (crawled : Crawled) (workers : Nat) : Prop :=
  ∃ schedule last, (crew crawled.seed.rank crawled.seed.url.text workers).run?
    (trade crawled.fetch) schedule = some last ∧ last.watch.isReleased = true ∧
      crawled.progress = last.state

end Crawled

def seedsOf (lines : List String) : List Seed :=
  lines.filterMap fun line =>
    if line.toList.all Text.isBlank then none else (Seed.parse line).toOption

/-- Whether some rounds are what comes of an input: one for each seed, in order. -/
structure Crawls (workers : Nat) (input : List UInt8) (rounds : List Crawled) : Prop where
  seeds : rounds.map (·.seed) = seedsOf (Text.Lines.ofBytes input).lines
  crawled : ∀ round ∈ rounds, round.IsBy workers

def printed (format : ReportFormat) (rounds : List Crawled) : String :=
  Event.text format (rounds.flatMap (·.events))

end PageLoad.Crawl

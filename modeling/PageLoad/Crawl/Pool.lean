import PageLoad.Crawl.Workers

/-!
A pool: workers that stay from one round to the next, and a driver that reads lines and puts up a round
for each seed. A worker looks at the round that was put up last, works in it until it is told that it
is closed, and rests until another has been put up.
-/

namespace PageLoad.Crawl
open Number Work Fetch

inductive Post where
  | looking
  | working (number : Nat)
  /-- Waiting, having seen a number of rounds put up, until there are others. -/
  | resting (seen : Nat)
  deriving DecidableEq, Repr

inductive Desk where
  | reading (lines : List String)
  | overseeing (lines : List String)
  deriving DecidableEq, Repr

structure Pool where
  posts : List Post
  crews : List (Crew Progress Job)
  desk : Desk
  happenings : List Happening
  fetched : List String

def Job.happening? : Job → Option Happening
  | .conclude taskEnd => some (.worked taskEnd)
  | .fetch _ | .offer _ _ _ _ => none

namespace Pool

def start (workers : Nat) : Pool := ⟨List.replicate workers .looking, [], .reading [], [], []⟩

def read (pool : Pool) (lines : List String) : Pool := { pool with desk := .reading lines }

def move (pool : Pool) (place : Nat) (post : Post) : Pool :=
  { pool with posts := pool.posts.set place post }

def next (pool : Pool) : Post :=
  match pool.crews.length with
  | 0 => .resting 0
  | number + 1 => .working number

def work (pool : Pool) (number : Nat) (stage : Stage Job) (crew : Crew Progress Job) : Pool :=
  { pool with
    crews := pool.crews.set number crew
    happenings := pool.happenings ++ (stage.job?.bind (·.happening?)).toList
    fetched := pool.fetched ++ (stage.job?.bind (·.awaited?)).toList }

/-- A worker's turn. Once it is told that its round is closed, it leaves. -/
def workerStep? (fetch : String → Outcome) (pool : Pool) (place : Nat) : Option Pool := do
  match ← pool.posts[place]? with
  | .looking => some (pool.move place pool.next)
  | .resting seen => if pool.crews.length = seen then none else some (pool.move place .looking)
  | .working number =>
    let crew ← pool.crews[number]?
    match ← crew.stages[place]? with
    | .gone => some (pool.move place (.resting (number + 1)))
    | stage => (crew.step? (trade fetch) (.worker place)).map (pool.work number stage)

/-- The driver's turn. A line that is no seed costs no more than itself; for a seed a round is put up,
in which all workers may take part, and seen to its end. A round takes no time of its own. -/
def driverStep? (fetch : String → Outcome) (pool : Pool) : Option Pool :=
  match pool.desk with
  | .reading [] => none
  | .reading (line :: rest) =>
    if line.toList.all Text.isBlank then some { pool with desk := .reading rest }
    else
      match Seed.parse line with
      | .error error =>
        some { pool with
          desk := .reading rest, happenings := pool.happenings ++ [.skipped error] }
      | .ok seed =>
        some { pool with
          crews := pool.crews ++ [crew seed.rank seed.url.text pool.posts.length]
          desk := .overseeing rest
          happenings := pool.happenings ++ [.started seed.rank seed.url.text] }
  | .overseeing rest => do
    let current ← pool.crews.getLast?
    if current.watch = .through then
      some { pool with
        desk := .reading rest
        happenings := pool.happenings ++ [.ended (current.state.round.summary .zero)] }
    else
      let next ← current.step? (trade fetch) .overseer
      some { pool with crews := pool.crews.dropLast ++ [next] }

def step? (fetch : String → Outcome) (pool : Pool) : Actor → Option Pool
  | .worker place => pool.workerStep? fetch place
  | .overseer => pool.driverStep? fetch

def jobs (pool : Pool) : List Job := pool.crews.flatMap (·.jobs)

def run? (fetch : String → Outcome) (pool : Pool) : List Actor → Option Pool
  | [] => some pool
  | actor :: rest => (pool.step? fetch actor).bind (run? fetch · rest)

/-- Gives turns in some order, as long as no two workers are busy at the same time. -/
def runSingly? (fetch : String → Outcome) (pool : Pool) : List Actor → Option Pool
  | [] => some pool
  | actor :: rest =>
    (pool.step? fetch actor).bind fun next =>
      if next.jobs.length ≤ 1 then runSingly? fetch next rest else none

/-- Whether all lines have been read and all rounds have been seen to their ends. -/
def IsDone (pool : Pool) : Prop := pool.desk = .reading []

end Pool

end PageLoad.Crawl

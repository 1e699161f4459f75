import PageLoad.Crawl.Pool
import PageLoad.Proofs.Crawl.Reports
import PageLoad.Proofs.Crawl.Run
import PageLoad.Proofs.Crawl.Singly

/-!
What happens in a pool is what happens in its rounds, one after the other, whatever the order of the
turns. A round that has been seen to its end tells nothing more, though workers may still be about to
leave it. If no two workers are busy at the same time, that is what happens when the lines are worked
through in order.
-/

namespace PageLoad.Crawl
open Number Work Fetch

def Single (jobs : List Job) : Prop := jobs.length ≤ 1

/-- A round that some workers have got to, if only certain jobs may be under way at the same time. -/
inductive IsAt (Admits : List Job → Prop) (fetch : String → Outcome) (workers : Nat) (seed : Seed) :
    Crew Progress Job → Prop where
  | start : IsAt Admits fetch workers seed (crew seed.rank seed.url.text workers)
  | step {now next : Crew Progress Job} {actor : Actor} (reached : IsAt Admits fetch workers seed now)
    (stepped : now.step? (trade fetch) actor = some next) (admitted : Admits next.jobs) :
    IsAt Admits fetch workers seed next

variable {Admits : List Job → Prop} {fetch : String → Outcome} {workers : Nat} {seed : Seed}
  {now : Crew Progress Job}

namespace IsAt

theorem reaches (reached : IsAt Admits fetch workers seed now) :
    Crew.Reaches (trade fetch) (crew seed.rank seed.url.text workers) now := by
  induction reached with
  | start => exact .refl _
  | @step now next actor _ stepped _ ih => exact ih.trans ⟨[actor], by simp [Crew.run?, stepped]⟩

theorem sound (reached : IsAt Admits fetch workers seed now) : now.Sound (trade fetch) :=
  reached.reaches.sound (crew_sound _ _ _ _)

theorem stages_length (reached : IsAt Admits fetch workers seed now) : now.stages.length = workers := by
  obtain ⟨schedule, ran⟩ := reached.reaches
  refine Crew.run?_keeps (·.stages.length = workers) (fun _ _ _ kept stepped => ?_) ran ?_
  · rw [Crew.step?_length stepped, kept]
  · simp [crew, Crew.start]

theorem done (reached : IsAt Admits fetch workers seed now) (through : now.watch = .through) :
    now.state.round.queue.outstanding = 0 := reached.sound.released (by rw [through]; rfl)

theorem free (reached : IsAt Admits fetch workers seed now) (through : now.watch = .through) :
    now.jobs = [] := reached.sound.idle (reached.done through)

theorem singly (reached : IsAt Single fetch workers seed now) :
    ∃ schedule, (crew seed.rank seed.url.text workers).runSingly? (trade fetch) schedule = some now := by
  induction reached with
  | start => exact ⟨[], rfl⟩
  | step _ stepped single ih =>
    obtain ⟨schedule, ran⟩ := ih
    exact ⟨_, Crew.runSingly?_concat ran stepped single⟩

end IsAt

def toldOf (seed : Seed) (now : Crew Progress Job) : List Happening :=
  .started seed.rank seed.url.text :: now.state.ends.map .worked ++
    [.ended (now.state.round.summary .zero)]

theorem IsAt.told_eq {site : Site} (reached : IsAt Single site.fetch workers seed now)
    (through : now.watch = .through) :
    toldOf seed now = runRound site.fetch site.size seed ∧
      now.state.fetched = (runRound site.fetch site.size seed).filterMap (·.fetched?) := by
  have done := reached.done through
  obtain ⟨schedule, ran⟩ := reached.singly
  obtain ⟨same, ends, fetched⟩ := drained_singly (Site.covers site _)
    (Nat.le_of_eq (site.urls_length _)) ran done
  obtain ⟨rank, seedUrl, _, _, tasks, bytes⟩ := Round.bare_inj.mp same
  have summary : now.state.round.summary .zero =
      ((Round.start seed.rank seed.url.text).drain site.fetch site.size).1.summary .zero := by
    simp only [Round.summary, rank, seedUrl, tasks, bytes]
  refine ⟨?_, by rw [fetched, runRound_fetched]⟩
  rw [toldOf, ends, summary]
  rfl

/-! What a turn in a round adds. -/

theorem act_adds (fetch : String → Outcome) (progress : Progress) (job : Job) :
    (progress.act fetch job).1.ends.map Happening.worked =
        progress.ends.map .worked ++ job.happening?.toList ∧
      (progress.act fetch job).1.fetched = progress.fetched ++ job.awaited?.toList := by
  cases job with
  | fetch task => exact ⟨(List.append_nil _).symm, rfl⟩
  | offer task page index rest =>
    cases rest <;> exact ⟨(List.append_nil _).symm, (List.append_nil _).symm⟩
  | conclude taskEnd => exact ⟨List.map_append, (List.append_nil _).symm⟩

theorem step_adds {next : Crew Progress Job} {place : Nat} {stage : Stage Job}
    (found : now.stages[place]? = some stage)
    (stepped : now.step? (trade fetch) (.worker place) = some next) :
    next.state.ends.map Happening.worked =
        now.state.ends.map .worked ++ (stage.job?.bind (·.happening?)).toList ∧
      next.state.fetched = now.state.fetched ++ (stage.job?.bind (·.awaited?)).toList ∧
      next.watch = now.watch := by
  rw [Crew.step?_at found] at stepped
  obtain ⟨⟨state, after⟩, turned, rfl⟩ := Option.map_eq_some_iff.mp stepped
  obtain ⟨rfl, asked⟩ | ⟨ticket, rfl, _, asked⟩ | ⟨job, rfl, rfl, _⟩ | ⟨rfl, _, rfl, _⟩ :=
    Trade.turn_cases turned
  · obtain ⟨rfl, _⟩ := Prod.mk.inj asked
    exact ⟨(List.append_nil _).symm, (List.append_nil _).symm, rfl⟩
  · obtain ⟨rfl, _⟩ := Prod.mk.inj asked
    exact ⟨(List.append_nil _).symm, (List.append_nil _).symm, rfl⟩
  · obtain ⟨ends, fetched⟩ := act_adds fetch now.state job
    exact ⟨ends, fetched, rfl⟩
  · exact ⟨(List.append_nil _).symm, (List.append_nil _).symm, rfl⟩

namespace Pool

variable {pool next : Pool}

theorem workerStep?_cases {place : Nat} (stepped : pool.workerStep? fetch place = some next) :
    (pool.posts[place]? = some .looking ∧ next = pool.move place pool.next) ∨
    (∃ seen, pool.posts[place]? = some (.resting seen) ∧ pool.crews.length ≠ seen ∧
      next = pool.move place .looking) ∨
    (∃ number now, pool.posts[place]? = some (.working number) ∧ pool.crews[number]? = some now ∧
      now.stages[place]? = some .gone ∧ next = pool.move place (.resting (number + 1))) ∨
    ∃ number now stage after, pool.posts[place]? = some (.working number) ∧
      pool.crews[number]? = some now ∧ now.stages[place]? = some stage ∧
      now.step? (trade fetch) (.worker place) = some after ∧ next = pool.work number stage after := by
  simp only [workerStep?, Option.bind_eq_bind, Option.bind_eq_some_iff] at stepped
  obtain ⟨post, found, stepped⟩ := stepped
  cases post with
  | looking => exact .inl ⟨found, (Option.some.inj stepped).symm⟩
  | resting seen =>
    dsimp only at stepped
    split at stepped
    next => cases stepped
    next more => exact .inr (.inl ⟨seen, found, more, (Option.some.inj stepped).symm⟩)
  | working number =>
    simp only [Option.bind_eq_some_iff] at stepped
    obtain ⟨now, put, stage, staged, stepped⟩ := stepped
    split at stepped
    next => exact .inr (.inr (.inl ⟨number, now, found, put, staged, (Option.some.inj stepped).symm⟩))
    next =>
      obtain ⟨after, turned, rfl⟩ := Option.map_eq_some_iff.mp stepped
      exact .inr (.inr (.inr ⟨number, now, stage, after, found, put, staged, turned, rfl⟩))

/-- The driver's turn reads a line that is no seed, puts up the round for a seed, says that a round has
ended, or is the overseer's turn in the round that was put up last. -/
theorem driverStep?_cases (stepped : pool.driverStep? fetch = some next) :
    (∃ line rest, pool.desk = .reading (line :: rest) ∧ seedsOf [line] = [] ∧
      next = { pool with desk := .reading rest, happenings := pool.happenings ++ remarks line }) ∨
    (∃ line rest seed, pool.desk = .reading (line :: rest) ∧ seedsOf [line] = [seed] ∧
      next = { pool with
        crews := pool.crews ++ [crew seed.rank seed.url.text pool.posts.length]
        desk := .overseeing rest
        happenings := pool.happenings ++ [.started seed.rank seed.url.text] }) ∨
    (∃ rest now, pool.desk = .overseeing rest ∧ pool.crews.getLast? = some now ∧
      now.watch = .through ∧
      next = { pool with
        desk := .reading rest
        happenings := pool.happenings ++ [.ended (now.state.round.summary .zero)] }) ∨
    ∃ rest now after, pool.desk = .overseeing rest ∧ pool.crews.getLast? = some now ∧
      now.step? (trade fetch) .overseer = some after ∧
      next = { pool with crews := pool.crews.dropLast ++ [after] } := by
  unfold driverStep? at stepped
  split at stepped
  next => cases stepped
  next line rest desk =>
    obtain ⟨blank, none, remark⟩ | ⟨written, error, found, none, remark⟩ | ⟨written, seed, found, one⟩ :=
      line_cases line
    · rw [if_pos blank] at stepped
      refine .inl ⟨line, rest, desk, none, ?_⟩
      rw [remark, List.append_nil]
      exact (Option.some.inj stepped).symm
    · rw [if_neg written, found] at stepped
      refine .inl ⟨line, rest, desk, none, ?_⟩
      rw [remark]
      exact (Option.some.inj stepped).symm
    · rw [if_neg written, found] at stepped
      exact .inr (.inl ⟨line, rest, seed, desk, one, (Option.some.inj stepped).symm⟩)
  next rest desk =>
    simp only [Option.bind_eq_bind, Option.bind_eq_some_iff] at stepped
    obtain ⟨now, last, stepped⟩ := stepped
    split at stepped
    next through =>
      exact .inr (.inr (.inl ⟨rest, now, desk, last, through, (Option.some.inj stepped).symm⟩))
    next going =>
      obtain ⟨after, turned, same⟩ := Option.bind_eq_some_iff.mp stepped
      exact .inr (.inr (.inr ⟨rest, now, after, desk, last, turned, (Option.some.inj same).symm⟩))

def Sound (Admits : List Job → Prop) (fetch : String → Outcome) (pool : Pool) : Prop :=
  ∀ now ∈ pool.crews, ∃ seed, IsAt Admits fetch pool.posts.length seed now

theorem sound_start (Admits : List Job → Prop) (fetch : String → Outcome) (workers : Nat) :
    (start workers).Sound Admits fetch := fun _ member => (List.not_mem_nil member).elim

theorem Sound.step (sound : pool.Sound Admits fetch) {actor : Actor}
    (stepped : pool.step? fetch actor = some next) (admitted : ∀ now ∈ next.crews, Admits now.jobs) :
    next.Sound Admits fetch ∧ next.posts.length = pool.posts.length := by
  have moved (place : Nat) (post : Post) : (pool.move place post).Sound Admits fetch ∧
      (pool.move place post).posts.length = pool.posts.length := by
    have staff : (pool.move place post).posts.length = pool.posts.length := List.length_set
    exact ⟨by rw [Sound, staff]; exact sound, staff⟩
  cases actor with
  | worker place =>
    obtain ⟨_, rfl⟩ | ⟨_, _, _, rfl⟩ | ⟨_, _, _, _, _, rfl⟩ |
      ⟨number, now, stage, after, _, put, _, turned, rfl⟩ := workerStep?_cases stepped
    · exact moved place _
    · exact moved place _
    · exact moved place _
    · refine ⟨fun other member => ?_, rfl⟩
      rcases List.mem_or_eq_of_mem_set member with old | rfl
      · exact sound other old
      · obtain ⟨seed, reached⟩ := sound now (List.mem_of_getElem? put)
        exact ⟨seed, reached.step turned (admitted other member)⟩
  | overseer =>
    obtain ⟨_, _, _, _, rfl⟩ | ⟨line, rest, seed, _, _, rfl⟩ | ⟨_, _, _, _, _, rfl⟩ |
      ⟨rest, now, after, _, last, turned, rfl⟩ := driverStep?_cases stepped
    · exact ⟨sound, rfl⟩
    · refine ⟨fun other member => ?_, rfl⟩
      rcases List.mem_append.mp member with old | new
      · exact sound other old
      · obtain rfl := List.mem_singleton.mp new
        exact ⟨seed, .start⟩
    · exact ⟨sound, rfl⟩
    · refine ⟨fun other member => ?_, rfl⟩
      rcases List.mem_append.mp member with old | new
      · exact sound other (List.mem_of_mem_dropLast old)
      · obtain ⟨seed, reached⟩ := sound now (List.mem_of_getLast? last)
        obtain rfl := List.mem_singleton.mp new
        exact ⟨seed, reached.step turned (admitted other member)⟩

end Pool

/-- What has happened and been fetched on account of some lines: a remark at most for a line that is no
seed, and for any other a round that has been seen to its end. -/
inductive Tells (Admits : List Job → Prop) (fetch : String → Outcome) (workers : Nat) :
    List String → List Happening → List String → Prop where
  | nil : Tells Admits fetch workers [] [] []
  | skip {before fetched : List String} {happenings : List Happening} {line : String}
    (told : Tells Admits fetch workers before happenings fetched) (none : seedsOf [line] = []) :
    Tells Admits fetch workers (before ++ [line]) (happenings ++ remarks line) fetched
  | round {before fetched : List String} {happenings : List Happening} {line : String} {seed : Seed}
    {now : Crew Progress Job} (told : Tells Admits fetch workers before happenings fetched)
    (one : seedsOf [line] = [seed]) (reached : IsAt Admits fetch workers seed now)
    (through : now.watch = .through) :
    Tells Admits fetch workers (before ++ [line]) (happenings ++ toldOf seed now)
      (fetched ++ now.state.fetched)

theorem Tells.inOrder {site : Site} {lines fetched : List String} {happenings : List Happening}
    (told : Tells Single site.fetch workers lines happenings fetched) :
    happenings = lines.flatMap (runLine site.fetch site.size) ∧
      fetched = (lines.flatMap (runLine site.fetch site.size)).filterMap (·.fetched?) := by
  induction told with
  | nil => exact ⟨rfl, rfl⟩
  | @skip _ _ _ line _ none ih =>
    obtain ⟨happenings, fetched⟩ := ih
    obtain ⟨_, remark⟩ | ⟨seed, one, _⟩ := runLine_cases site.fetch site.size line
    · rw [List.flatMap_append, List.flatMap_singleton, remark, List.filterMap_append,
        (remarks_silent line).2, List.append_nil]
      exact ⟨congrArg (· ++ _) happenings, fetched⟩
    · cases none.symm.trans one
  | @round _ _ _ line seed now _ one reached through ih =>
    obtain ⟨happenings, fetched⟩ := ih
    obtain ⟨none, _⟩ | ⟨other, one', led⟩ := runLine_cases site.fetch site.size line
    · cases none.symm.trans one
    · obtain rfl : seed = other := List.singleton_inj.mp (one.symm.trans one')
      obtain ⟨whole, asked⟩ := reached.told_eq through
      rw [List.flatMap_append, List.flatMap_singleton, led, List.filterMap_append, whole, asked]
      exact ⟨congrArg (· ++ _) happenings, congrArg (· ++ _) fetched⟩

namespace Pool

variable {pool next : Pool} {lines : List String}

/-- What has happened in a pool is what the lines that have been read have led to, as far as the round has
got that was put up last. All rounds before it have ended. -/
inductive Told (Admits : List Job → Prop) (fetch : String → Outcome) (lines : List String) (pool : Pool) :
    Prop where
  | reading {before rest : List String} (desk : pool.desk = .reading rest)
    (split : lines = before ++ rest) (through : ∀ now ∈ pool.crews, now.watch = .through)
    (tells : Tells Admits fetch pool.posts.length before pool.happenings pool.fetched) :
    Told Admits fetch lines pool
  | overseeing {before rest fetched : List String} {line : String} {seed : Seed}
    {earlier : List (Crew Progress Job)} {now : Crew Progress Job} {happenings : List Happening}
    (desk : pool.desk = .overseeing rest) (split : lines = before ++ line :: rest)
    (one : seedsOf [line] = [seed])
    (crews : pool.crews = earlier ++ [now]) (through : ∀ other ∈ earlier, other.watch = .through)
    (reached : IsAt Admits fetch pool.posts.length seed now)
    (tells : Tells Admits fetch pool.posts.length before happenings fetched)
    (grown : pool.happenings =
      happenings ++ .started seed.rank seed.url.text :: now.state.ends.map .worked)
    (asked : pool.fetched = fetched ++ now.state.fetched) : Told Admits fetch lines pool

theorem told_start (Admits : List Job → Prop) (fetch : String → Outcome) (workers : Nat) :
    (start workers).Told Admits fetch [] :=
  .reading rfl (List.append_nil []).symm (fun _ member => (List.not_mem_nil member).elim) .nil

theorem Told.read (told : pool.Told Admits fetch lines) (done : pool.IsDone) (more : List String) :
    (pool.read more).Told Admits fetch (lines ++ more) := by
  cases told with
  | @reading before rest desk split through tells =>
    obtain rfl : rest = [] := Desk.reading.inj (desk.symm.trans done)
    rw [List.append_nil] at split
    exact .reading rfl (congrArg (· ++ more) split) through tells
  | overseeing desk => cases desk.symm.trans done

theorem Told.move (told : pool.Told Admits fetch lines) (place : Nat) (post : Post) :
    (pool.move place post).Told Admits fetch lines := by
  have staff : (pool.move place post).posts.length = pool.posts.length := List.length_set
  cases told with
  | reading desk split through tells => exact .reading desk split through (staff ▸ tells)
  | overseeing desk split one crews through reached tells grown asked =>
    exact .overseeing desk split one crews through (staff ▸ reached) (staff ▸ tells) grown asked

theorem quiet_of_through {after : Crew Progress Job} {place : Nat} {stage : Stage Job}
    (reached : IsAt Admits fetch workers seed now) (through : now.watch = .through)
    (staged : now.stages[place]? = some stage)
    (turned : now.step? (trade fetch) (.worker place) = some after) :
    stage.job? = none ∧ after.watch = .through := by
  have idle := (reached.sound.quiet (reached.done through)).2 stage (List.mem_of_getElem? staged)
  refine ⟨?_, (step_adds staged turned).2.2.trans through⟩
  cases stage <;> first | rfl | cases idle

theorem crews_cases {earlier : List (Crew Progress Job)} {current : Crew Progress Job} {number : Nat}
    (crews : pool.crews = earlier ++ [current]) (put : pool.crews[number]? = some now) :
    (number = earlier.length ∧ now = current) ∨ (number < earlier.length ∧ now ∈ earlier) := by
  rw [crews] at put
  by_cases inside : number < earlier.length
  · rw [List.getElem?_append_left inside] at put
    exact .inr ⟨inside, List.mem_of_getElem? put⟩
  · rw [List.getElem?_append_right (Nat.not_lt.mp inside), List.getElem?_singleton] at put
    split at put
    next last => exact .inl ⟨by omega, (Option.some.inj put).symm⟩
    next => cases put

theorem work_last {earlier : List (Crew Progress Job)} {current after : Crew Progress Job}
    {stage : Stage Job} (crews : pool.crews = earlier ++ [current]) :
    (pool.work earlier.length stage after).crews = earlier ++ [after] := by
  rw [work, crews, List.set_append_right _ _ (Nat.le_refl _), Nat.sub_self, List.set_cons_zero]

theorem Told.work (told : pool.Told Admits fetch lines) (sound : pool.Sound Admits fetch)
    {number place : Nat} {stage : Stage Job} {now after : Crew Progress Job}
    (put : pool.crews[number]? = some now) (staged : now.stages[place]? = some stage)
    (turned : now.step? (trade fetch) (.worker place) = some after) (admitted : Admits after.jobs) :
    (pool.work number stage after).Told Admits fetch lines := by
  obtain ⟨_, known⟩ := sound now (List.mem_of_getElem? put)
  -- where nothing happens, only the round itself has changed
  have quiet (through : now.watch = .through) :
      (pool.work number stage after).happenings = pool.happenings ∧
        (pool.work number stage after).fetched = pool.fetched ∧ after.watch = .through := by
    obtain ⟨free, still⟩ := quiet_of_through known through staged turned
    refine ⟨?_, ?_, still⟩
    all_goals simp [Pool.work, free]
  cases told with
  | reading desk split through tells =>
    obtain ⟨same, asked, still⟩ := quiet (through now (List.mem_of_getElem? put))
    refine .reading desk split (fun other member => ?_) ?_
    · rcases List.mem_or_eq_of_mem_set member with old | rfl
      · exact through other old
      · exact still
    · rw [same, asked]
      exact tells
  | @overseeing before rest fetched line seed earlier current happenings desk split one crews through
      reached tells grown asked =>
    obtain ⟨rfl, rfl⟩ | ⟨inside, old⟩ := crews_cases crews put
    · obtain ⟨ends, more, _⟩ := step_adds staged turned
      refine .overseeing desk split one (work_last crews) through (reached.step turned admitted) tells ?_ ?_
      · rw [Pool.work, grown, ends, List.append_assoc, List.cons_append]
      · rw [Pool.work, asked, more, List.append_assoc]
    · obtain ⟨same, quietly, still⟩ := quiet (through now old)
      have kept : (pool.work number stage after).crews = earlier.set number after ++ [current] := by
        rw [Pool.work, crews, List.set_append_left _ _ inside]
      refine .overseeing desk split one kept (fun other member => ?_) reached tells
        (same.trans grown) (quietly.trans asked)
      rcases List.mem_or_eq_of_mem_set member with old | rfl
      · exact through other old
      · exact still

theorem Told.drive (told : pool.Told Admits fetch lines) (stepped : pool.driverStep? fetch = some next)
    (admitted : ∀ now ∈ next.crews, Admits now.jobs) : next.Told Admits fetch lines := by
  obtain ⟨line, left, desk', none, rfl⟩ | ⟨line, left, seed, desk', one, rfl⟩ |
    ⟨left, now, desk', last, ended, rfl⟩ | ⟨left, now, after, desk', last, turned, rfl⟩ :=
    driverStep?_cases stepped
  · cases told with
    | @reading before rest desk split through tells =>
      obtain rfl : rest = line :: left := Desk.reading.inj (desk.symm.trans desk')
      exact .reading rfl (by rw [split, List.append_cons]) through (tells.skip none)
    | overseeing desk => cases desk.symm.trans desk'
  · cases told with
    | @reading before rest desk split through tells =>
      obtain rfl : rest = line :: left := Desk.reading.inj (desk.symm.trans desk')
      exact .overseeing rfl split one rfl through .start tells rfl (List.append_nil _).symm
    | overseeing desk => cases desk.symm.trans desk'
  · cases told with
    | reading desk => cases desk.symm.trans desk'
    | @overseeing before rest fetched line seed earlier current happenings desk split one crews through
        reached tells grown asked =>
      obtain rfl : rest = left := Desk.overseeing.inj (desk.symm.trans desk')
      rw [crews, List.getLast?_concat] at last
      obtain rfl := Option.some.inj last
      have whole : pool.happenings ++ [.ended (current.state.round.summary .zero)] =
          happenings ++ toldOf seed current := by
        rw [grown, List.append_assoc]
        rfl
      refine .reading rfl (by rw [split, List.append_cons]) (fun other member => ?_) ?_
      · rw [crews] at member
        rcases List.mem_append.mp member with old | new
        · exact through other old
        · exact List.mem_singleton.mp new ▸ ended
      · simp only [whole, asked]
        exact tells.round one reached ended
  · cases told with
    | reading desk => cases desk.symm.trans desk'
    | @overseeing before rest fetched line seed earlier current happenings desk split one crews through
        reached tells grown asked =>
      obtain rfl : rest = left := Desk.overseeing.inj (desk.symm.trans desk')
      rw [crews, List.getLast?_concat] at last
      obtain rfl := Option.some.inj last
      have replaced : pool.crews.dropLast ++ [after] = earlier ++ [after] := by
        rw [crews, List.dropLast_concat]
      have few : Admits after.jobs := admitted after (List.mem_append_right _ (List.mem_singleton_self _))
      obtain ⟨queue, _, state, _⟩ := Crew.step?_overseer turned
      refine .overseeing desk split one replaced through (reached.step turned few) tells ?_ ?_
      · rw [grown, state]
        rfl
      · rw [asked, state]
        rfl

theorem Told.step (told : pool.Told Admits fetch lines) (sound : pool.Sound Admits fetch) {actor : Actor}
    (stepped : pool.step? fetch actor = some next) (admitted : ∀ now ∈ next.crews, Admits now.jobs) :
    next.Told Admits fetch lines := by
  cases actor with
  | worker place =>
    obtain ⟨_, rfl⟩ | ⟨_, _, _, rfl⟩ | ⟨_, _, _, _, _, rfl⟩ |
      ⟨number, now, stage, after, _, put, staged, turned, rfl⟩ := workerStep?_cases stepped
    · exact told.move place _
    · exact told.move place _
    · exact told.move place _
    · refine told.work sound put staged turned (admitted after ?_)
      exact List.mem_set (List.getElem?_eq_some_iff.mp put).1 _
  | overseer => exact told.drive stepped admitted

theorem Told.of_done (told : pool.Told Admits fetch lines) (done : pool.IsDone) :
    Tells Admits fetch pool.posts.length lines pool.happenings pool.fetched := by
  cases told with
  | reading desk split _ tells =>
    obtain rfl := Desk.reading.inj (desk.symm.trans done)
    rw [List.append_nil] at split
    exact split ▸ tells
  | overseeing desk => cases desk.symm.trans done

end Pool

end PageLoad.Crawl

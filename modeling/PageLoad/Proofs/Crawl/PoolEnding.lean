import PageLoad.Proofs.Crawl.Pool

/-!
A pool comes to the end of its lines, whatever the order of the turns, and also if no two workers may be
busy at the same time. A worker that rests is called for every round, one that comes too late to a round
finds it closed, and the round that was put up last goes on as it would with workers of its own.
-/

namespace PageLoad.Crawl
open Number Work Fetch

variable {Admits : List Job → Prop} {site : Site} {workers : Nat} {seed : Seed}
  {now after : Crew Progress Job} {actor : Actor}

theorem sum_set_lt {α : Type} (count : α → Nat) {list : List α} {place : Nat} {old new : α}
    (found : list[place]? = some old) (less : count new < count old) :
    ((list.set place new).map count).sum < (list.map count).sum := by
  obtain ⟨inside, rfl⟩ := List.getElem?_eq_some_iff.mp found
  have split : (list.map count).sum =
      ((list.take place).map count).sum +
        (count list[place] + ((list.drop (place + 1)).map count).sum) := by
    conv_lhs => rw [← List.take_append_drop place list, List.drop_eq_getElem_cons inside]
    rw [List.map_append, List.sum_append, List.map_cons, List.sum_cons]
  rw [split, List.set_eq_take_append_cons_drop, if_pos inside, List.map_append, List.sum_append,
    List.map_cons, List.sum_cons]
  omega

theorem exists_set_of_getLast? {α : Type} {list : List α} {old : α} (last : list.getLast? = some old) :
    ∃ place, list[place]? = some old ∧ ∀ new, list.dropLast ++ [new] = list.set place new := by
  obtain ⟨earlier, rfl⟩ := List.getLast?_eq_some_iff.mp last
  refine ⟨earlier.length, List.getElem?_concat_length, fun new => ?_⟩
  rw [List.dropLast_concat, List.set_append_right _ _ (Nat.le_refl _), Nat.sub_self, List.set_cons_zero]

/-! How many turns there can be. -/

def roundRank (site : Site) (now : Crew Progress Job) : Nat :=
  now.rank (trade site.fetch) (Job.cost site.fetch)
    (Progress.budget site.fetch (site.urls now.state.round.seedUrl))

theorem roundRank_eq {rank seedUrl : String}
    (reached : Crew.Reaches (trade site.fetch) (crew rank seedUrl workers) now) :
    roundRank site now = now.rank (trade site.fetch) (Job.cost site.fetch)
      (Progress.budget site.fetch (site.urls seedUrl)) := by
  rw [roundRank, (reached_counted reached).seedUrl]

theorem IsAt.roundRank_lt (reached : IsAt Admits site.fetch workers seed now)
    (stepped : now.step? (trade site.fetch) actor = some after) :
    roundRank site after < roundRank site now := by
  have next : Crew.Reaches (trade site.fetch) (crew seed.rank seed.url.text workers) after :=
    reached.reaches.trans ⟨[actor], by simp [Crew.run?, stepped]⟩
  rw [roundRank_eq reached.reaches, roundRank_eq next]
  exact Crew.step_rank_lt (Progress.spends (Site.covers site _)) reached.sound
    (reached_rooted reached.reaches) stepped

/-- How many times a worker may still go to another post, if a number of rounds will be put up and some
of them have been. -/
def Post.rank (rounds put : Nat) : Post → Nat
  | .looking => 3 * (rounds - put) + 2
  | .working number => 3 * (rounds - (number + 1)) + 1
  | .resting seen => 3 * (rounds - seen)

theorem Post.rank_succ_le (rounds put : Nat) (post : Post) :
    post.rank rounds (put + 1) ≤ post.rank rounds put := by
  cases post with
  | looking =>
    simp only [rank]
    omega
  | working number => exact Nat.le_refl _
  | resting seen => exact Nat.le_refl _

namespace Desk

def lines : Desk → List String
  | .reading lines | .overseeing lines => lines

def rank : Desk → Nat
  | .reading lines => 2 * lines.length
  | .overseeing lines => 2 * lines.length + 1

end Desk

namespace Pool

variable {pool next : Pool} {lines : List String}

def rounds (pool : Pool) : Nat := pool.crews.length + (seedsOf pool.desk.lines).length

def rank (site : Site) (pool : Pool) : Nat :=
  (pool.posts.map (·.rank pool.rounds pool.crews.length)).sum + pool.desk.rank +
    (pool.crews.map (roundRank site)).sum +
    ((seedsOf pool.desk.lines).map fun seed =>
      roundRank site (crew seed.rank seed.url.text pool.posts.length)).sum

end Pool

/-! Where the workers are. -/

/-- A worker is at work in a round that has been put up, and has not rested before it was told that the
last round it has seen was closed. -/
structure Post.Fits (post : Post) (crews : List (Crew Progress Job)) (place : Nat) : Prop where
  working : ∀ number, post = .working number → number < crews.length
  resting : ∀ seen, post = .resting seen → seen ≤ crews.length
  left : ∀ number now, post = .resting (number + 1) → crews[number]? = some now →
    now.stages[place]? = some .gone

theorem Post.Fits.mono {crews others : List (Crew Progress Job)} {place : Nat} {post : Post}
    (fits : post.Fits crews place) (longer : crews.length ≤ others.length)
    (kept : ∀ number other, others[number]? = some other → number < crews.length →
      ∃ now, crews[number]? = some now ∧
        (now.stages[place]? = some .gone → other.stages[place]? = some .gone)) :
    post.Fits others place where
  working number same := Nat.lt_of_lt_of_le (fits.working number same) longer
  resting seen same := Nat.le_trans (fits.resting seen same) longer
  left number other same placed := by
    obtain ⟨now, put, stays⟩ := kept number other placed (fits.resting _ same)
    exact stays (fits.left number now same put)

namespace Pool

variable {pool next : Pool} {lines : List String}

def IsStaffed (pool : Pool) : Prop :=
  ∀ (place : Nat) (post : Post), pool.posts[place]? = some post → post.Fits pool.crews place

theorem staffed_start (workers : Nat) : (start workers).IsStaffed := by
  intro place post found
  obtain rfl := List.eq_of_mem_replicate (List.mem_of_getElem? found)
  exact ⟨fun _ => nofun, fun _ => nofun, fun _ _ => nofun⟩

theorem IsStaffed.move (staffed : pool.IsStaffed) {place : Nat} {post : Post}
    (fits : post.Fits pool.crews place) : (pool.move place post).IsStaffed := by
  intro other found placed
  change (pool.posts.set place post)[other]? = some found at placed
  rw [List.getElem?_set] at placed
  split at placed
  next same =>
    subst same
    split at placed
    next => exact Option.some.inj placed ▸ fits
    next => cases placed
  next => exact staffed other found placed

theorem next_fits (pool : Pool) (place : Nat) : pool.next.Fits pool.crews place := by
  unfold Pool.next
  split
  next none =>
    refine ⟨fun _ => nofun, fun seen same => ?_, fun _ _ => nofun⟩
    cases same
    exact Nat.zero_le _
  next number more =>
    refine ⟨fun other same => ?_, fun _ => nofun, fun _ _ => nofun⟩
    cases same
    omega

theorem IsStaffed.set (staffed : pool.IsStaffed) {number : Nat}
    (put : pool.crews[number]? = some now) (stepped : now.step? (trade site.fetch) actor = some after)
    {place : Nat} {post : Post} (found : pool.posts[place]? = some post) :
    post.Fits (pool.crews.set number after) place := by
  refine (staffed place post found).mono (Nat.le_of_eq List.length_set.symm)
    fun other last placed inside => ?_
  by_cases same : number = other
  · subst same
    rw [List.getElem?_set_self inside] at placed
    obtain rfl := Option.some.inj placed
    exact ⟨now, put, fun gone => Crew.step?_gone gone stepped⟩
  · rw [List.getElem?_set_ne same] at placed
    exact ⟨last, placed, id⟩

theorem IsStaffed.step (staffed : pool.IsStaffed)
    (stepped : pool.step? site.fetch actor = some next) : next.IsStaffed := by
  cases actor with
  | worker place =>
    obtain ⟨_, rfl⟩ | ⟨_, _, _, rfl⟩ | ⟨number, now, posted, put, gone, rfl⟩ |
      ⟨number, now, stage, after, posted, put, staged, turned, rfl⟩ := workerStep?_cases stepped
    · exact staffed.move (pool.next_fits place)
    · exact staffed.move ⟨fun _ => nofun, fun _ => nofun, fun _ _ => nofun⟩
    · refine staffed.move ⟨fun _ => nofun, fun seen same => ?_, fun other found same placed => ?_⟩
      · cases same
        exact (List.getElem?_eq_some_iff.mp put).1
      · cases same
        exact Option.some.inj (put.symm.trans placed) ▸ gone
    · exact fun _ _ found => staffed.set put turned found
  | overseer =>
    obtain ⟨_, _, _, _, rfl⟩ | ⟨line, rest, seed, _, _, rfl⟩ | ⟨_, _, _, _, _, rfl⟩ |
      ⟨rest, now, after, _, last, turned, rfl⟩ := driverStep?_cases stepped
    · exact staffed
    · intro place post found
      refine (staffed place post found).mono ?_ fun number other placed inside => ?_
      · rw [List.length_append]
        exact Nat.le_add_right _ _
      · rw [List.getElem?_append_left inside] at placed
        exact ⟨other, placed, id⟩
    · exact staffed
    · intro place post found
      obtain ⟨number, put, replaced⟩ := exists_set_of_getLast? last
      exact replaced after ▸ staffed.set put turned found

/-! Each turn brings a pool closer to its end. -/

theorem rank_move_lt (site : Site) {place : Nat} {old new : Post} (found : pool.posts[place]? = some old)
    (less : new.rank pool.rounds pool.crews.length < old.rank pool.rounds pool.crews.length) :
    (pool.move place new).rank site < pool.rank site := by
  have staff := sum_set_lt (·.rank pool.rounds pool.crews.length) found less
  have same : (pool.posts.set place new).length = pool.posts.length := List.length_set
  simp only [rank, move, same]
  exact Nat.add_lt_add_right (Nat.add_lt_add_right (Nat.add_lt_add_right staff _) _) _

theorem rank_set_lt {other : Pool} {number : Nat} (reached : IsAt Admits site.fetch workers seed now)
    (stepped : now.step? (trade site.fetch) actor = some after)
    (put : pool.crews[number]? = some now) (posts : other.posts = pool.posts)
    (desk : other.desk = pool.desk) (crews : other.crews = pool.crews.set number after) :
    other.rank site < pool.rank site := by
  have turned := sum_set_lt (roundRank site) put (reached.roundRank_lt stepped)
  have same : (pool.crews.set number after).length = pool.crews.length := List.length_set
  simp only [rank, rounds, posts, desk, crews, same]
  exact Nat.add_lt_add_right (Nat.add_lt_add_left turned _) _

theorem step_rank_lt (sound : pool.Sound Admits site.fetch) (staffed : pool.IsStaffed)
    (stepped : pool.step? site.fetch actor = some next) : next.rank site < pool.rank site := by
  cases actor with
  | worker place =>
    obtain ⟨posted, rfl⟩ | ⟨seen, posted, more, rfl⟩ | ⟨number, now, posted, _, _, rfl⟩ |
      ⟨number, now, stage, after, _, put, _, turned, rfl⟩ := workerStep?_cases stepped
    · apply rank_move_lt site posted
      unfold Pool.next
      split
      next none =>
        simp only [none, Post.rank]
        omega
      next number more =>
        simp only [more, Post.rank]
        omega
    · apply rank_move_lt site posted
      have early := (staffed place _ posted).resting seen rfl
      have few : pool.crews.length ≤ pool.rounds := Nat.le_add_right _ _
      simp only [Post.rank]
      omega
    · apply rank_move_lt site posted
      simp only [Post.rank]
      omega
    · obtain ⟨seed, reached⟩ := sound now (List.mem_of_getElem? put)
      exact rank_set_lt reached turned put rfl rfl rfl
  | overseer =>
    obtain ⟨line, rest, desk, none, rfl⟩ | ⟨line, rest, seed, desk, one, rfl⟩ |
      ⟨rest, now, desk, _, _, rfl⟩ | ⟨rest, now, after, desk, last, turned, rfl⟩ :=
      driverStep?_cases stepped
    · have same : seedsOf (line :: rest) = seedsOf rest := by rw [seedsOf_cons, none, List.nil_append]
      simp only [rank, rounds, desk, Desk.lines, Desk.rank, same, List.length_cons]
      omega
    · have split : seedsOf (line :: rest) = seed :: seedsOf rest := by
        rw [seedsOf_cons, one, List.singleton_append]
      have rounds : pool.crews.length + 1 + (seedsOf rest).length =
          pool.crews.length + ((seedsOf rest).length + 1) := by omega
      have staff : (pool.posts.map (·.rank (pool.crews.length + ((seedsOf rest).length + 1))
            (pool.crews.length + 1))).sum ≤
          (pool.posts.map (·.rank (pool.crews.length + ((seedsOf rest).length + 1))
            pool.crews.length)).sum :=
        List.sum_le_sum fun post _ => post.rank_succ_le _ _
      simp only [rank, Pool.rounds, desk, Desk.lines, Desk.rank, split, List.length_cons,
        List.length_append, List.length_nil, List.map_append, List.sum_append, List.map_cons,
        List.sum_cons, List.map_nil, List.sum_nil, Nat.zero_add, rounds]
      omega
    · simp only [rank, rounds, desk, Desk.lines, Desk.rank]
      omega
    · obtain ⟨seed, reached⟩ := sound now (List.mem_of_getLast? last)
      obtain ⟨number, put, replaced⟩ := exists_set_of_getLast? last
      exact rank_set_lt reached turned put rfl rfl (replaced after)

/-! Until it is done, somebody has a turn. -/

theorem jobs_set {number : Nat} (put : pool.crews[number]? = some now) (same : after.jobs = now.jobs) :
    (pool.crews.set number after).flatMap (·.jobs) = pool.jobs := by
  obtain ⟨inside, rfl⟩ := List.getElem?_eq_some_iff.mp put
  rw [jobs, List.flatMap_def, List.flatMap_def, List.map_set, same]
  congr 1
  apply List.ext_getElem List.length_set
  intro place _ _
  rw [List.getElem_set]
  split
  next here =>
    subst here
    rw [List.getElem_map]
  next => rfl

theorem Sound.jobs_last (sound : pool.Sound Admits site.fetch) {earlier : List (Crew Progress Job)}
    (crews : pool.crews = earlier ++ [now]) (through : ∀ other ∈ earlier, other.watch = .through)
    (last : Crew Progress Job) : (earlier ++ [last]).flatMap (·.jobs) = last.jobs := by
  have free (other : Crew Progress Job) (member : other ∈ earlier) : other.jobs = [] := by
    obtain ⟨_, known⟩ := sound other (crews ▸ List.mem_append_left _ member)
    exact known.free (through other member)
  rw [List.flatMap_append, List.flatMap_eq_nil_iff.mpr free, List.flatMap_singleton, List.nil_append]

theorem jobs_start (rank seedUrl : String) (workers : Nat) : (crew rank seedUrl workers).jobs = [] := by
  refine List.filterMap_eq_nil_iff.mpr fun stage member => ?_
  rw [List.eq_of_mem_replicate member]
  rfl

theorem exists_read (site : Site) {line : String} {rest : List String}
    (desk : pool.desk = .reading (line :: rest)) :
    ∃ next, pool.step? site.fetch .overseer = some next ∧ next.jobs = pool.jobs := by
  simp only [step?, driverStep?, desk]
  split
  next => exact ⟨_, rfl, rfl⟩
  next =>
    split
    next => exact ⟨_, rfl, rfl⟩
    next =>
      refine ⟨_, rfl, ?_⟩
      rw [jobs, List.flatMap_append, List.flatMap_singleton, jobs_start, List.append_nil]
      rfl

theorem exists_end (site : Site) {rest : List String} (desk : pool.desk = .overseeing rest)
    (last : pool.crews.getLast? = some now) (through : now.watch = .through) :
    ∃ next, pool.step? site.fetch .overseer = some next ∧ next.jobs = pool.jobs := by
  simp only [step?, driverStep?, desk, last, Option.bind_eq_bind, Option.bind_some, if_pos through]
  exact ⟨_, rfl, rfl⟩

theorem step?_oversee {rest : List String} (desk : pool.desk = .overseeing rest)
    (last : pool.crews.getLast? = some now) (going : now.watch ≠ .through)
    (turned : now.step? (trade site.fetch) .overseer = some after) :
    pool.step? site.fetch .overseer = some { pool with crews := pool.crews.dropLast ++ [after] } := by
  simp only [step?, driverStep?, desk, last, Option.bind_eq_bind, Option.bind_some, if_neg going, turned]

theorem step?_work {number place : Nat} {stage : Stage Job}
    (posted : pool.posts[place]? = some (.working number)) (put : pool.crews[number]? = some now)
    (staged : now.stages[place]? = some stage)
    (turned : now.step? (trade site.fetch) (.worker place) = some after) :
    pool.step? site.fetch (.worker place) = some (pool.work number stage after) := by
  have present : stage ≠ .gone := by
    rintro rfl
    rw [Crew.step?_of_gone staged] at turned
    cases turned
  simp only [step?, workerStep?, posted, put, staged, Option.bind_eq_bind, Option.bind_some, turned,
    Option.map_some]

theorem exists_leave {number place : Nat} (posted : pool.posts[place]? = some (.working number))
    (put : pool.crews[number]? = some now) (reached : IsAt Admits site.fetch pool.posts.length seed now)
    (through : now.watch = .through) :
    ∃ next, pool.step? site.fetch (.worker place) = some next ∧ next.jobs = pool.jobs := by
  have inside : place < now.stages.length := by
    rw [reached.stages_length]
    exact (List.getElem?_eq_some_iff.mp posted).1
  have staged : now.stages[place]? = some now.stages[place] := List.getElem?_eq_getElem inside
  obtain gone | turn := reached.sound.turn_of_through through (List.getElem_mem inside)
  · rw [gone] at staged
    exact ⟨pool.move place (.resting (number + 1)), by simp [step?, workerStep?, posted, put, staged],
      rfl⟩
  · obtain ⟨turned, turn⟩ := Option.isSome_iff_exists.mp turn
    obtain ⟨after, stepped⟩ : ∃ after, now.step? (trade site.fetch) (.worker place) = some after := by
      rw [Crew.step?_at staged, turn]
      exact ⟨_, rfl⟩
    obtain ⟨_, still⟩ := quiet_of_through reached through staged stepped
    have sound := Crew.step_sound reached.sound stepped
    have free : after.jobs = [] := sound.idle (sound.released (by rw [still]; rfl))
    exact ⟨_, step?_work posted put staged stepped,
      jobs_set put (free.trans (reached.free through).symm)⟩

theorem exists_worker_step {earlier : List (Crew Progress Job)} {place : Nat}
    (sound : pool.Sound Admits site.fetch) (staffed : pool.IsStaffed) (admitted : Admits pool.jobs)
    (crews : pool.crews = earlier ++ [now]) (through : ∀ other ∈ earlier, other.watch = .through)
    (reached : IsAt Admits site.fetch pool.posts.length seed now)
    (turned : now.step? (trade site.fetch) (.worker place) = some after) (few : Admits after.jobs) :
    ∃ next, pool.step? site.fetch (.worker place) = some next ∧ Admits next.jobs := by
  have last : pool.crews[earlier.length]? = some now := by rw [crews, List.getElem?_concat_length]
  obtain ⟨stage, staged⟩ := Crew.exists_stage turned
  have inside : place < pool.posts.length := by
    rw [← reached.stages_length]
    exact (List.getElem?_eq_some_iff.mp staged).1
  have posted : pool.posts[place]? = some pool.posts[place] := List.getElem?_eq_getElem inside
  cases post : pool.posts[place] with
  | looking =>
    rw [post] at posted
    exact ⟨pool.move place pool.next, by simp [step?, workerStep?, posted], admitted⟩
  | resting seen =>
    rw [post] at posted
    have behind : pool.crews.length ≠ seen := by
      rintro rfl
      -- it has been told that the last round it has seen was closed, and has no turn there
      have gone := (staffed place _ posted).left earlier.length now (by rw [crews]; simp) last
      rw [Crew.step?_of_gone gone] at turned
      cases turned
    exact ⟨pool.move place .looking, by simp [step?, workerStep?, posted, behind], admitted⟩
  | working number =>
    rw [post] at posted
    have inside := (staffed place _ posted).working number rfl
    have put : pool.crews[number]? = some pool.crews[number] := List.getElem?_eq_getElem inside
    obtain ⟨rfl, _⟩ | ⟨_, early⟩ := crews_cases crews put
    · refine ⟨_, step?_work posted last staged turned, ?_⟩
      rw [Pool.jobs, work_last crews, sound.jobs_last crews through]
      exact few
    · obtain ⟨_, known⟩ := sound _ (List.mem_of_getElem? put)
      obtain ⟨next, stepped, same⟩ := exists_leave posted put known (through _ early)
      exact ⟨next, stepped, same ▸ admitted⟩

end Pool

/-- A rule on which jobs may be under way at the same time, which nobody is ever stuck for. -/
structure IsRule (Admits : List Job → Prop) (fetch : String → Outcome) : Prop where
  none : Admits []
  part : ∀ part whole : List Job, part.Sublist whole → Admits whole → Admits part
  turn : ∀ now : Crew Progress Job, now.Sound (trade fetch) → now.stages ≠ [] → now.watch ≠ .through →
    Admits now.jobs → ∃ actor after, now.step? (trade fetch) actor = some after ∧ Admits after.jobs

theorem isRule_any (fetch : String → Outcome) : IsRule (fun _ => True) fetch where
  none := trivial
  part _ _ _ _ := trivial
  turn _ sound staff going _ := by
    obtain ⟨actor, turn⟩ := Crew.exists_step sound staff going
    obtain ⟨after, stepped⟩ := Option.isSome_iff_exists.mp turn
    exact ⟨actor, after, stepped, trivial⟩

theorem isRule_single (fetch : String → Outcome) : IsRule Single fetch where
  none := Nat.zero_le _
  part _ _ within single := Nat.le_trans within.length_le single
  turn _ sound staff going single := Crew.exists_step_singly sound staff going single

namespace Pool

variable {pool next : Pool} {lines : List String}

theorem jobs_sublist (member : now ∈ pool.crews) : now.jobs.Sublist pool.jobs :=
  List.sublist_flatten_of_mem (List.mem_map_of_mem member)

/-- Somebody has a turn until all lines have been read and all rounds have been seen to their ends. -/
theorem exists_step (rule : IsRule Admits site.fetch) (sound : pool.Sound Admits site.fetch)
    (staffed : pool.IsStaffed) (told : pool.Told Admits site.fetch lines) (admitted : Admits pool.jobs)
    (manned : pool.posts ≠ []) (going : ¬ pool.IsDone) :
    ∃ actor next, pool.step? site.fetch actor = some next ∧ Admits next.jobs := by
  cases told with
  | @reading before rest desk =>
    cases rest with
    | nil => exact absurd desk going
    | cons line rest =>
      obtain ⟨next, stepped, same⟩ := exists_read site desk
      exact ⟨.overseer, next, stepped, same ▸ admitted⟩
  | @overseeing before rest _ line seed earlier now _ desk split one crews through reached =>
    have last : pool.crews.getLast? = some now := by rw [crews, List.getLast?_concat]
    by_cases ended : now.watch = .through
    · obtain ⟨next, stepped, same⟩ := exists_end site desk last ended
      exact ⟨.overseer, next, stepped, same ▸ admitted⟩
    · have staff : now.stages ≠ [] := by
        rw [← List.length_pos_iff, reached.stages_length, List.length_pos_iff]
        exact manned
      have jobs : pool.jobs = now.jobs := by rw [Pool.jobs, crews, sound.jobs_last crews through]
      obtain ⟨actor, after, turned, few⟩ := rule.turn now reached.sound staff ended (jobs ▸ admitted)
      cases actor with
      | worker place =>
        obtain ⟨next, stepped, allowed⟩ :=
          exists_worker_step sound staffed admitted crews through reached turned few
        exact ⟨.worker place, next, stepped, allowed⟩
      | overseer =>
        refine ⟨.overseer, _, step?_oversee desk last ended turned, ?_⟩
        rw [Pool.jobs, crews, List.dropLast_concat, sound.jobs_last crews through]
        exact few

/-! Whole runs. -/

inductive Runs (Admits : List Job → Prop) (fetch : String → Outcome) : Pool → List Actor → Pool → Prop where
  | nil {pool : Pool} : Runs Admits fetch pool [] pool
  | cons {pool next last : Pool} {actor : Actor} {schedule : List Actor}
    (stepped : pool.step? fetch actor = some next) (admitted : Admits next.jobs)
    (rest : Runs Admits fetch next schedule last) : Runs Admits fetch pool (actor :: schedule) last

theorem runs_of_run? {fetch : String → Outcome} {last : Pool} {schedule : List Actor}
    (ran : pool.run? fetch schedule = some last) : Runs (fun _ => True) fetch pool schedule last := by
  induction schedule generalizing pool with
  | nil => exact Option.some.inj ran ▸ .nil
  | cons actor schedule ih =>
    obtain ⟨next, stepped, ran⟩ := Option.bind_eq_some_iff.mp ran
    exact .cons stepped trivial (ih ran)

theorem runs_of_runSingly? {fetch : String → Outcome} {last : Pool} {schedule : List Actor}
    (ran : pool.runSingly? fetch schedule = some last) : Runs Single fetch pool schedule last := by
  induction schedule generalizing pool with
  | nil => exact Option.some.inj ran ▸ .nil
  | cons actor schedule ih =>
    obtain ⟨next, stepped, ran⟩ := Option.bind_eq_some_iff.mp ran
    split at ran
    next few => exact .cons stepped few (ih ran)
    next => cases ran

structure Governed (Admits : List Job → Prop) (site : Site) (workers : Nat) (lines : List String)
    (pool : Pool) : Prop where
  sound : pool.Sound Admits site.fetch
  staffed : pool.IsStaffed
  told : pool.Told Admits site.fetch lines
  admitted : Admits pool.jobs
  manned : pool.posts.length = workers

theorem governed_start (rule : IsRule Admits site.fetch) (workers : Nat) :
    (start workers).Governed Admits site workers [] :=
  ⟨sound_start _ _ _, staffed_start _, told_start _ _ _, rule.none, List.length_replicate⟩

theorem Governed.read (governed : pool.Governed Admits site workers lines) (done : pool.IsDone)
    (more : List String) : (pool.read more).Governed Admits site workers (lines ++ more) :=
  ⟨governed.sound, governed.staffed, governed.told.read done more, governed.admitted, governed.manned⟩

theorem Governed.step (rule : IsRule Admits site.fetch) (governed : pool.Governed Admits site workers lines)
    (stepped : pool.step? site.fetch actor = some next) (admitted : Admits next.jobs) :
    next.Governed Admits site workers lines := by
  have parts : ∀ now ∈ next.crews, Admits now.jobs :=
    fun _ member => rule.part _ _ (jobs_sublist member) admitted
  obtain ⟨sound, staff⟩ := governed.sound.step stepped parts
  exact ⟨sound, governed.staffed.step stepped, governed.told.step governed.sound stepped parts, admitted,
    staff.trans governed.manned⟩

theorem Governed.run {last : Pool} {schedule : List Actor} (rule : IsRule Admits site.fetch)
    (governed : pool.Governed Admits site workers lines)
    (ran : Runs Admits site.fetch pool schedule last) : last.Governed Admits site workers lines := by
  induction ran with
  | nil => exact governed
  | cons stepped admitted _ ih => exact ih (governed.step rule stepped admitted)

theorem Governed.run_length_le {last : Pool} {schedule : List Actor} (rule : IsRule Admits site.fetch)
    (governed : pool.Governed Admits site workers lines)
    (ran : Runs Admits site.fetch pool schedule last) : schedule.length ≤ pool.rank site := by
  induction ran with
  | nil => exact Nat.zero_le _
  | cons stepped admitted _ ih =>
    have spent := step_rank_lt governed.sound governed.staffed stepped
    have rest := ih (governed.step rule stepped admitted)
    rw [List.length_cons]
    omega

theorem Governed.exists_step {last : Pool} {schedule : List Actor} (rule : IsRule Admits site.fetch)
    (governed : pool.Governed Admits site workers lines) (manned : workers ≠ 0)
    (ran : Runs Admits site.fetch pool schedule last) (going : ¬ last.IsDone) :
    ∃ actor next, last.step? site.fetch actor = some next ∧ Admits next.jobs := by
  have ⟨sound, staffed, told, admitted, staff⟩ := governed.run rule ran
  have someone : last.posts ≠ [] := by
    rw [← List.length_pos_iff, staff]
    exact Nat.pos_of_ne_zero manned
  exact Pool.exists_step rule sound staffed told admitted someone going

/-- Whatever the order of their turns, a pool comes to an end, and then it is done. -/
structure Ends (fetch : String → Outcome) (pool : Pool) : Prop where
  bounded : ∃ bound, ∀ schedule last, pool.run? fetch schedule = some last → schedule.length ≤ bound
  going : ∀ schedule last, pool.run? fetch schedule = some last → ¬ last.IsDone →
    ∃ actor, (last.step? fetch actor).isSome = true

theorem Governed.ends (governed : pool.Governed (fun _ => True) site workers lines)
    (manned : workers ≠ 0) : pool.Ends site.fetch where
  bounded := ⟨_, fun _ _ ran => governed.run_length_le (isRule_any _) (runs_of_run? ran)⟩
  going _ _ ran going := by
    obtain ⟨actor, next, stepped, _⟩ :=
      governed.exists_step (isRule_any _) manned (runs_of_run? ran) going
    exact ⟨actor, by rw [stepped]; rfl⟩

/-- Whatever the order of their turns, as long as no two workers are busy, a pool comes to an end, and
then it is done. -/
structure EndsSingly (fetch : String → Outcome) (pool : Pool) : Prop where
  bounded : ∃ bound, ∀ schedule last, pool.runSingly? fetch schedule = some last →
    schedule.length ≤ bound
  going : ∀ schedule last, pool.runSingly? fetch schedule = some last → ¬ last.IsDone →
    ∃ actor next, last.step? fetch actor = some next ∧ next.jobs.length ≤ 1

theorem Governed.endsSingly (governed : pool.Governed Single site workers lines) (manned : workers ≠ 0) :
    pool.EndsSingly site.fetch where
  bounded := ⟨_, fun _ _ ran => governed.run_length_le (isRule_single _) (runs_of_runSingly? ran)⟩
  going _ _ ran going := governed.exists_step (isRule_single _) manned (runs_of_runSingly? ran) going

end Pool

end PageLoad.Crawl

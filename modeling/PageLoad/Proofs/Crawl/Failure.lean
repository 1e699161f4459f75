import PageLoad.Proofs.Crawl.Append

/-!
What it costs that fetching a URL fails, in whatever way: the line of that URL in each round that asks for
it, and nothing else. It is compared with a crawl in which the URL answers with an empty page that names no
others.
-/

namespace PageLoad.Fetch

def Outcome.Fails : Outcome → Prop
  | .failed _ | .crashed _ => True
  | .page _ => False

theorem Outcome.Fails.links {outcome : Outcome} (fails : outcome.Fails) : outcome.links = [] := by
  cases outcome with
  | page page => exact fails.elim
  | failed failure => rfl
  | crashed crash => rfl

def Site.answering (site : Site) (url : String) (outcome : Outcome) : Site := (url, outcome) :: site

variable {site : Site} {url : String} {outcome : Outcome}

theorem Site.fetch_answering_self : (site.answering url outcome).fetch url = outcome := by
  simp [fetch, answering]

theorem Site.fetch_answering_of_ne {other : String} (apart : other ≠ url) :
    (site.answering url outcome).fetch other = site.fetch other := by
  simp [fetch, answering, List.lookup_cons, beq_false_of_ne apart]

theorem Site.size_answering (leaf : outcome.links = []) : (site.answering url outcome).size = site.size := by
  simp [size, answering, leaf]

end PageLoad.Fetch

namespace PageLoad.Crawl
open Number Work Fetch

variable {fetch other : String → Outcome} {limit : Nat}

def TaskEnd.ofOutcome (task : Task) : Outcome → TaskEnd
  | .failed failure => .dropped task failure
  | .crashed crash => .crashed task crash
  | .page page => .reported (TaskReport.ofPage task page)

theorem TaskEnd.report?_of_fails {outcome : Outcome} (fails : outcome.Fails) (task : Task) :
    (TaskEnd.ofOutcome task outcome).report? = none := by
  cases outcome with
  | page page => exact fails.elim
  | failed failure => rfl
  | crashed crash => rfl

namespace Round

theorem process_end (round : Round) (task : Task) (outcome : Outcome) :
    (round.process task outcome).2 = .ofOutcome task outcome := by
  cases outcome <;> rfl

def untold (round : Round) : Round := { round with tasks := 0, bytes := 0 }

theorem untold_offer (round : Round) (task : Task) :
    (round.offer task).1.untold = (round.untold.offer task).1 := by
  by_cases known : task.url ∈ round.seen
  · simp [offer, untold, known]
  · simp [offer, untold, known]

theorem untold_offerChildren (round : Round) (task : Task) (index : Nat) (urls : List String) :
    (round.offerChildren task index urls).untold = round.untold.offerChildren task index urls := by
  induction urls generalizing round index with
  | nil => rfl
  | cons url urls ih =>
    rw [offerChildren, ih, untold_offer]
    rfl

/-- The totals apart, all that matters about an outcome is what it leads to. -/
theorem untold_process (round : Round) (task : Task) (outcome : Outcome) :
    (round.process task outcome).1.untold = round.untold.offerChildren task 0 outcome.links := by
  cases outcome with
  | page page => exact untold_offerChildren round task 0 page.links
  | failed failure => rfl
  | crashed crash => rfl

theorem untold_work (fetch : String → Outcome) (round : Round) (task : Task) (rest : List Task) :
    (round.work fetch task rest).1.finish.untold =
      (offerChildren { round.untold with queue := { round.queue with items := rest } } task 0
        (fetch task.url).links).finish :=
  congrArg finish (untold_process _ task (fetch task.url))

/-- Which tasks come up in a round depends on nothing but what the outcomes lead to. -/
theorem drain_tasks {round round' : Round} (same : round.untold = round'.untold)
    (links : ∀ url, (fetch url).links = (other url).links) (limit : Nat) :
    (round.drain fetch limit).2.map (·.task) = (round'.drain other limit).2.map (·.task) := by
  induction limit generalizing round round' with
  | zero => rfl
  | succ limit ih =>
    have queue : round.untold.queue = round'.untold.queue := by rw [same]
    change round.queue = round'.queue at queue
    cases items : round.queue.items with
    | nil => rw [drain_of_empty fetch items, drain_of_empty other (queue ▸ items)]
    | cons task rest =>
      have next : (round.work fetch task rest).1.finish.untold =
          (round'.work other task rest).1.finish.untold := by
        rw [untold_work, untold_work, same, queue, links]
      rw [drain_of_items fetch items, drain_of_items other (queue ▸ items), List.map_cons,
        List.map_cons, ih next, work, work, process_task, process_task]

theorem drain_ends (fetch : String → Outcome) (limit : Nat) (round : Round) :
    (round.drain fetch limit).2 =
      ((round.drain fetch limit).2.map (·.task)).map fun task => .ofOutcome task (fetch task.url) := by
  induction limit generalizing round with
  | zero => rfl
  | succ limit ih =>
    cases items : round.queue.items with
    | nil =>
      rw [drain_of_empty fetch items]
      rfl
    | cons task rest =>
      rw [drain_of_items fetch items, List.map_cons, List.map_cons, ← ih, work, process_task,
        process_end]

end Round

/-! A round as it is printed. -/

def tasksOf (fetch : String → Outcome) (limit : Nat) (seed : Seed) : List Task :=
  ((Round.start seed.rank seed.url.text).drain fetch limit).2.map (·.task)

def reportsOf (fetch : String → Outcome) (tasks : List Task) : List TaskReport :=
  tasks.filterMap fun task => (TaskEnd.ofOutcome task (fetch task.url)).report?

theorem drain_reports (fetch : String → Outcome) (limit : Nat) (seed : Seed) :
    ((Round.start seed.rank seed.url.text).drain fetch limit).2.filterMap (·.report?) =
      reportsOf fetch (tasksOf fetch limit seed) := by
  conv_lhs => rw [Round.drain_ends]
  rw [List.filterMap_map]
  rfl

theorem drain_summary {urls : List String} {seed : Seed} (covers : Covers fetch seed.url.text urls)
    (room : urls.length ≤ limit) (elapsed : Double) :
    ((Round.start seed.rank seed.url.text).drain fetch limit).1.summary elapsed =
      ⟨seed.rank, seed.url.text, elapsed, (reportsOf fetch (tasksOf fetch limit seed)).length,
        ((reportsOf fetch (tasksOf fetch limit seed)).map (·.bytes)).sum % UInt64.size⟩ := by
  obtain ⟨last, ⟨queue, _, same⟩, ends, _, reached, _⟩ := drain_finished covers room seed.rank
  have counted : Progress.Counted seed.rank seed.url.text last 0 := reached_counted reached
  have ⟨rank, seedUrl, _, _⟩ := counted
  have ⟨tasks, bytes⟩ := counted.reports
  rw [ends, drain_reports] at tasks bytes
  rw [same] at rank seedUrl tasks bytes
  exact RoundSummary.mk.injEq .. ▸ ⟨rank, seedUrl, rfl, tasks, bytes⟩

theorem runRound_framed {urls : List String} {seed : Seed} (covers : Covers fetch seed.url.text urls)
    (room : urls.length ≤ limit) :
    (runRound fetch limit seed).filterMap (·.event?) =
      framed seed .zero (reportsOf fetch (tasksOf fetch limit seed)) := by
  rw [runRound_events, drain_summary covers room, drain_reports]
  rfl

theorem runRound_asked (fetch : String → Outcome) (limit : Nat) (seed : Seed) :
    (runRound fetch limit seed).filterMap (·.fetched?) = (tasksOf fetch limit seed).map (·.url) := by
  rw [runRound_fetched, tasksOf, List.map_map]
  rfl

theorem tasksOf_nodup {urls : List String} {seed : Seed} (covers : Covers fetch seed.url.text urls)
    (room : urls.length ≤ limit) : ((tasksOf fetch limit seed).map (·.url)).Nodup := by
  rw [← runRound_asked]
  exact (runRound_exact covers room).once

theorem tasksOf_congr (links : ∀ url, (fetch url).links = (other url).links) (limit : Nat) (seed : Seed) :
    tasksOf fetch limit seed = tasksOf other limit seed := Round.drain_tasks rfl links limit

theorem reportsOf_append (fetch : String → Outcome) (before after : List Task) :
    reportsOf fetch (before ++ after) = reportsOf fetch before ++ reportsOf fetch after :=
  List.filterMap_append

theorem url_mem_of_mem_reportsOf {tasks : List Task} {report : TaskReport}
    (member : report ∈ reportsOf fetch tasks) : report.url ∈ tasks.map (·.url) := by
  obtain ⟨task, present, found⟩ := List.mem_filterMap.mp member
  cases outcome : fetch task.url with
  | page page =>
    rw [outcome] at found
    obtain rfl := Option.some.inj found
    exact List.mem_map_of_mem present
  | failed failure => simp [outcome, TaskEnd.ofOutcome, TaskEnd.report?] at found
  | crashed crash => simp [outcome, TaskEnd.ofOutcome, TaskEnd.report?] at found

/-! One URL that fails. -/

/-- What it costs a round that a URL fails: nothing if it is not asked for, else its line. -/
structure Costs (url : String) (answering failing : History) : Prop where
  fetched : failing.fetched = answering.fetched
  spared : url ∉ answering.fetched → failing.events = answering.events
  line : url ∈ answering.fetched → ∃ before report after summary, report.url = url ∧
    (∀ other, .task other ∈ before ++ after → other.url ≠ url) ∧
    answering.events =
      before ++ .task report :: (after ++ [.roundEnd { summary with tasks := summary.tasks + 1 }]) ∧
    failing.events = before ++ (after ++ [.roundEnd summary])

/-- Two ways in which fetching may go, which differ in one URL: it gives an empty page that names no
others, or fails. -/
structure FailsAt (url : String) (answering failing : String → Outcome) : Prop where
  answers : ∃ page, answering url = .page page ∧ page.links = [] ∧ page.body = []
  fails : (failing url).Fails
  elsewhere : ∀ other, other ≠ url → failing other = answering other

namespace FailsAt

variable {url : String} {answering failing : String → Outcome}

theorem links (differ : FailsAt url answering failing) (asked : String) :
    (answering asked).links = (failing asked).links := by
  by_cases same : asked = url
  · obtain ⟨page, found, leaf, _⟩ := differ.answers
    rw [same, found, differ.fails.links]
    exact leaf
  · rw [differ.elsewhere asked same]

theorem reportsOf_eq (differ : FailsAt url answering failing) {tasks : List Task}
    (spared : url ∉ tasks.map (·.url)) : reportsOf failing tasks = reportsOf answering tasks := by
  apply List.filterMap_congr
  intro task member
  have apart : task.url ≠ url := fun same => spared (same ▸ List.mem_map_of_mem member)
  rw [differ.elsewhere task.url apart]

theorem reportsOf_split (differ : FailsAt url answering failing) {tasks : List Task}
    (once : (tasks.map (·.url)).Nodup) (asked : url ∈ tasks.map (·.url)) :
    ∃ before report after, report.url = url ∧ report.bytes = 0 ∧
      (∀ other ∈ before ++ after, other.url ≠ url) ∧
      reportsOf answering tasks = before ++ report :: after ∧ reportsOf failing tasks = before ++ after := by
  obtain ⟨task, member, rfl⟩ := List.mem_map.mp asked
  obtain ⟨before, after, rfl⟩ := List.append_of_mem member
  obtain ⟨page, found, _, empty⟩ := differ.answers
  rw [List.map_append, List.map_cons, List.nodup_append, List.nodup_cons] at once
  have early : task.url ∉ before.map (·.url) :=
    fun known => once.2.2 _ known _ List.mem_cons_self rfl
  have late : task.url ∉ after.map (·.url) := once.2.1.1
  refine ⟨reportsOf answering before, TaskReport.ofPage task page, reportsOf answering after, rfl,
    congrArg List.length empty, ?_, ?_, ?_⟩
  · intro other member same
    rcases List.mem_append.mp member with first | last
    · exact early (same ▸ url_mem_of_mem_reportsOf first)
    · exact late (same ▸ url_mem_of_mem_reportsOf last)
  · have line : (TaskEnd.ofOutcome task (answering task.url)).report? =
        some (TaskReport.ofPage task page) := by
      rw [found]
      rfl
    rw [reportsOf_append]
    exact congrArg (reportsOf answering before ++ ·) (List.filterMap_cons_some line)
  · have none : (TaskEnd.ofOutcome task (failing task.url)).report? = none :=
      TaskEnd.report?_of_fails differ.fails task
    rw [reportsOf_append, differ.reportsOf_eq early, ← differ.reportsOf_eq late]
    exact congrArg (reportsOf answering before ++ ·) (List.filterMap_cons_none none)

theorem costs (differ : FailsAt url answering failing) {urls urls' : List String} {seed : Seed}
    (covers : Covers answering seed.url.text urls) (room : urls.length ≤ limit)
    (covers' : Covers failing seed.url.text urls') (room' : urls'.length ≤ limit) :
    Costs url ⟨runRound answering limit seed, none⟩ ⟨runRound failing limit seed, none⟩ := by
  have tasks := tasksOf_congr differ.links limit seed
  have fetched : History.fetched ⟨runRound failing limit seed, none⟩ =
      History.fetched ⟨runRound answering limit seed, none⟩ := by
    rw [History.fetched, History.fetched, runRound_asked, runRound_asked, tasks]
  have asking : History.fetched ⟨runRound answering limit seed, none⟩ =
      (tasksOf answering limit seed).map (·.url) := runRound_asked answering limit seed
  have answered : History.events ⟨runRound answering limit seed, none⟩ =
      framed seed .zero (reportsOf answering (tasksOf answering limit seed)) := runRound_framed covers room
  have failed : History.events ⟨runRound failing limit seed, none⟩ =
      framed seed .zero (reportsOf failing (tasksOf answering limit seed)) := by
    rw [tasks]
    exact runRound_framed covers' room'
  refine ⟨fetched, ?_, ?_⟩
  · intro spared
    rw [asking] at spared
    rw [answered, failed, differ.reportsOf_eq spared]
  · intro asked
    rw [asking] at asked
    obtain ⟨before, report, after, same, empty, others, lines, fewer⟩ :=
      differ.reportsOf_split (tasksOf_nodup covers room) asked
    refine ⟨.roundStart seed.rank seed.url.text :: before.map .task, report, after.map .task,
      ⟨seed.rank, seed.url.text, .zero, (before ++ after).length,
        ((before ++ after).map (·.bytes)).sum % UInt64.size⟩, same, ?_, ?_, ?_⟩
    · intro other member
      refine others other ?_
      simpa using member
    · have longer : (before ++ report :: after).length = (before ++ after).length + 1 := by
        simp only [List.length_append, List.length_cons]
        omega
      have total : ((before ++ report :: after).map (·.bytes)).sum =
          ((before ++ after).map (·.bytes)).sum := by
        simp [empty]
      rw [answered, lines, framed, longer, total]
      simp
    · rw [failed, fewer, framed]
      simp

end FailsAt

/-! Whole crawls. -/

def roundsOf (site : Site) (input : List UInt8) : List History :=
  (seedsOf (Text.Lines.ofBytes input).lines).map fun seed => ⟨runRound site.fetch site.size seed, none⟩

structure History.IsMadeOf (history : History) (rounds : List History) : Prop where
  events : history.events = rounds.flatMap (·.events)
  fetched : history.fetched = rounds.flatMap (·.fetched)

theorem runLines_isMadeOf (fetch : String → Outcome) (limit : Nat) (lines : List String)
    (flaw : Option Text.Utf8.Flaw) :
    History.IsMadeOf ⟨lines.flatMap (runLine fetch limit), flaw⟩
      ((seedsOf lines).map fun seed => ⟨runRound fetch limit seed, none⟩) := by
  induction lines with
  | nil => exact ⟨rfl, rfl⟩
  | cons line lines ih =>
    obtain ⟨events, fetched⟩ := ih
    simp only [History.events, History.fetched] at events fetched
    rw [seedsOf_cons, List.map_append]
    obtain ⟨none, remark⟩ | ⟨seed, one, led⟩ := runLine_cases fetch limit line
    · constructor
      · simp [History.events, none, remark, events]
      · simp [History.fetched, none, remark, fetched]
    · constructor
      · simp [History.events, one, led, events]
      · simp [History.fetched, one, led, fetched]

theorem runSite_isMadeOf (site : Site) (input : List UInt8) :
    (runSite site input).IsMadeOf (roundsOf site input) := runLines_isMadeOf _ _ _ _

theorem round_events (site : Site) (seed : Seed) :
    History.events ⟨runRound site.fetch site.size seed, none⟩ =
      framed seed .zero (reportsOf site.fetch (tasksOf site.fetch site.size seed)) :=
  runRound_framed (Site.covers site _) (Nat.le_of_eq (site.urls_length _))

theorem runSite_framed (site : Site) (input : List UInt8) :
    (runSite site input).events = (seedsOf (Text.Lines.ofBytes input).lines).flatMap fun seed =>
      framed seed .zero (reportsOf site.fetch (tasksOf site.fetch site.size seed)) := by
  rw [(runSite_isMadeOf site input).events, roundsOf, List.flatMap_map]
  simp only [round_events]

theorem runSite_result (site : Site) (input : List UInt8) :
    (runSite site input).result =
      match (Text.Lines.ofBytes input).flaw with
      | some flaw => .error ("reading seed lines: " ++ flaw.message)
      | none => .ok (seedsOf (Text.Lines.ofBytes input).lines).length := by
  obtain ⟨rounds, crawls, _, printed⟩ := runSite_crawls site input
  rw [History.result_of_rounds printed, ← crawls.seeds, List.length_map]
  rfl

/-- What is printed and fetched depends on nothing but where the outcomes lead and what is reported of
them. -/
theorem runSite_congr {site other : Site} (size : site.size = other.size)
    (links : ∀ url, (site.fetch url).links = (other.fetch url).links)
    (reports : ∀ task : Task, (TaskEnd.ofOutcome task (site.fetch task.url)).report? =
      (TaskEnd.ofOutcome task (other.fetch task.url)).report?) (input : List UInt8) :
    (runSite site input).events = (runSite other input).events ∧
      (runSite site input).fetched = (runSite other input).fetched := by
  have tasks (seed : Seed) : tasksOf site.fetch site.size seed = tasksOf other.fetch other.size seed :=
    size ▸ tasksOf_congr links site.size seed
  constructor
  · rw [runSite_framed, runSite_framed]
    simp only [tasks, reportsOf, reports]
  · rw [(runSite_isMadeOf site input).fetched, (runSite_isMadeOf other input).fetched, roundsOf,
      roundsOf, List.flatMap_map, List.flatMap_map]
    simp only [History.fetched, runRound_asked, tasks]

theorem fetched_of_costs {url : String} {answered failed : List History}
    (rounds : List.Forall₂ (Costs url) answered failed) :
    failed.flatMap (·.fetched) = answered.flatMap (·.fetched) := by
  induction rounds with
  | nil => rfl
  | cons first _ ih => rw [List.flatMap_cons, List.flatMap_cons, first.fetched, ih]

structure FailureCosts (url : String) (answered failed : Site) (input : List UInt8) : Prop where
  answeredOf : (runSite answered input).IsMadeOf (roundsOf answered input)
  failedOf : (runSite failed input).IsMadeOf (roundsOf failed input)
  rounds : List.Forall₂ (Costs url) (roundsOf answered input) (roundsOf failed input)
  fetched : (runSite failed input).fetched = (runSite answered input).fetched
  result : (runSite failed input).result = (runSite answered input).result

theorem FailsAt.failureCosts {url : String} {answered failed : Site}
    (differ : FailsAt url answered.fetch failed.fetch) (size : failed.size = answered.size)
    (input : List UInt8) : FailureCosts url answered failed input := by
  have rounds : List.Forall₂ (Costs url) (roundsOf answered input) (roundsOf failed input) := by
    rw [roundsOf, roundsOf, List.forall₂_map_left_iff, List.forall₂_map_right_iff, List.forall₂_same]
    intro seed _
    rw [size]
    exact differ.costs (Site.covers answered _) (Nat.le_of_eq (answered.urls_length _))
      (Site.covers failed _) (Nat.le_of_eq ((failed.urls_length _).trans size))
  have fetched := fetched_of_costs rounds
  refine ⟨runSite_isMadeOf answered input, runSite_isMadeOf failed input, rounds, ?_, ?_⟩
  · rw [(runSite_isMadeOf failed input).fetched, fetched, (runSite_isMadeOf answered input).fetched]
  · rw [runSite_result, runSite_result]

section Answering

variable {site : Site} {url : String} {page : Page} {failing : Outcome}

theorem failsAt_answering (plain : page.isHtml = false) (empty : page.body = [])
    (fails : failing.Fails) :
    FailsAt url (site.answering url (.page page)).fetch (site.answering url failing).fetch where
  answers := ⟨page, Site.fetch_answering_self, by simp [Page.links, plain], empty⟩
  fails := by rw [Site.fetch_answering_self]; exact fails
  elsewhere other apart := by
    rw [Site.fetch_answering_of_ne apart, Site.fetch_answering_of_ne apart]

theorem runSite_answering_congr {other : Outcome} (fails : failing.Fails) (fails' : other.Fails)
    (input : List UInt8) :
    (runSite (site.answering url failing) input).events =
        (runSite (site.answering url other) input).events ∧
      (runSite (site.answering url failing) input).fetched =
        (runSite (site.answering url other) input).fetched := by
  apply runSite_congr
  · rw [Site.size_answering fails.links, Site.size_answering fails'.links]
  · intro asked
    by_cases same : asked = url
    · rw [same, Site.fetch_answering_self, Site.fetch_answering_self, fails.links, fails'.links]
    · rw [Site.fetch_answering_of_ne same, Site.fetch_answering_of_ne same]
  · intro task
    by_cases same : task.url = url
    · rw [same, Site.fetch_answering_self, Site.fetch_answering_self,
        TaskEnd.report?_of_fails fails, TaskEnd.report?_of_fails fails']
    · rw [Site.fetch_answering_of_ne same, Site.fetch_answering_of_ne same]

/-- Whatever a site is, a URL that fails at it, in whatever way, costs a crawl the line of that URL in each
round that asks for it, as compared with an empty page that names no others. So all ways of failing print and
fetch the same. Pools of any number of workers crawl so, and do not lose a worker. -/
theorem failure_costs_line (site : Site) (url : String) (plain : page.isHtml = false)
    (empty : page.body = []) (fails : failing.Fails) (input : List UInt8) (workers : Nat) :
    FailureCosts url (site.answering url (.page page)) (site.answering url failing) input ∧
    (∀ other : Outcome, other.Fails →
      (runSite (site.answering url failing) input).events =
          (runSite (site.answering url other) input).events ∧
        (runSite (site.answering url failing) input).fetched =
          (runSite (site.answering url other) input).fetched) ∧
    ∀ (outcome : Outcome) (pool : Pool),
      pool.IsFree (site.answering url outcome).fetch (poolSize workers) →
      pool.CrawlsInOrder (site.answering url outcome).fetch input
        (runSite (site.answering url outcome) input) := by
  have differ : FailsAt url (site.answering url (.page page)).fetch (site.answering url failing).fetch :=
    failsAt_answering plain empty fails
  have leaf : (Outcome.page page).links = [] := by simp [Outcome.links, Page.links, plain]
  have size : (site.answering url failing).size = (site.answering url (.page page)).size := by
    rw [Site.size_answering fails.links, Site.size_answering leaf]
  refine ⟨differ.failureCosts size input, ?_, ?_⟩
  · intro other fails'
    exact runSite_answering_congr fails fails' input
  · intro outcome pool free
    exact free.crawlsInOrder (Nat.ne_of_gt (Nat.le_max_right workers 1)) input

end Answering

def emptyPicture : Page := ⟨⟨"a", none, .whole "//b", none, none⟩, "image/png", [], 7⟩

/-- Two rounds that ask for a picture at which workers crash: both go without its line. -/
theorem failure_costs_line_twice :
    FailureCosts "a://b" (Site.answering [] "a://b" (.page emptyPicture)) crashSite
      "1,a://b\n2,a://b".toUTF8.toList ∧
    (runSite crashSite "1,a://b\n2,a://b".toUTF8.toList).fetched = ["a://b", "a://b"] ∧
    (runSite crashSite "1,a://b\n2,a://b".toUTF8.toList).events.length = 4 ∧
    (runSite (Site.answering [] "a://b" (.page emptyPicture))
      "1,a://b\n2,a://b".toUTF8.toList).events.length = 6 := by
  have costs : FailureCosts "a://b" (Site.answering [] "a://b" (.page emptyPicture)) crashSite
      "1,a://b\n2,a://b".toUTF8.toList :=
    (@failure_costs_line emptyPicture (.crashed .wordless) [] "a://b" (by decide) rfl trivial _ 1).1
  refine ⟨costs, ?_, by decide +kernel, by decide +kernel⟩
  rw [costs.fetched]
  decide +kernel

end PageLoad.Crawl

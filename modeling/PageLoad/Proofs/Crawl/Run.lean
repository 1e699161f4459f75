import PageLoad.Proofs.Crawl.Exact
import Mathlib.Data.List.TakeWhile

/-!
A crawl that works through its rounds in order is one of the crawls that workers may make.
-/

namespace PageLoad.Crawl
open Number Work Fetch

variable {fetch : String → Outcome}

theorem runRound_crawled {urls : List String} {seed : Seed} (covers : Covers fetch seed.url.text urls)
    {limit : Nat} (room : urls.length ≤ limit) :
    ∃ round : Crawled, round.seed = seed ∧ round.fetch = fetch ∧ round.IsBy 1 ∧
      (runRound fetch limit seed).filterMap (·.event?) = round.events := by
  obtain ⟨last, mirrors, ends, _, reached, finished⟩ := drain_finished covers room seed.rank
  have counted := (reached.sound (crew_sound fetch seed.rank seed.url.text 1)).outstanding
  have done : last.round.queue.outstanding = 0 := by
    change last.round.queue.outstanding = last.round.queue.items.length + 0 at counted
    rw [counted, finished.empty]
    rfl
  obtain ⟨schedule, ran⟩ := reached.trans (Crew.reaches_closing (trade fetch) _ done)
  refine ⟨⟨seed, fetch, last, .zero⟩, rfl, rfl, ⟨schedule, _, ran, rfl, rfl⟩, ?_⟩
  obtain ⟨queue, _, same⟩ := mirrors
  rw [runRound_events, ← ends, Crawled.events, Crawled.summary, same]
  rfl

theorem seedsOf_append (before after : List String) :
    seedsOf (before ++ after) = seedsOf before ++ seedsOf after := List.filterMap_append

theorem seedsOf_cons (line : String) (lines : List String) :
    seedsOf (line :: lines) = seedsOf [line] ++ seedsOf lines := seedsOf_append [line] lines

theorem Seed.parse_split {line : String} {seed : Seed} (parsed : Seed.parse line = .ok seed) :
    ∃ target, line.toList = seed.rank.toList ++ ',' :: target ∧ ',' ∉ seed.rank.toList := by
  rw [Seed.parse] at parsed
  split at parsed
  next => cases parsed
  next comma target found =>
    have rank : seed.rank = String.ofList (line.toList.takeWhile (· ≠ ',')) := by
      split at parsed
      · cases parsed
      · simp only [bind, Except.bind] at parsed
        split at parsed
        · cases parsed
        · cases parsed
          rfl
    have stops : comma = ',' := by
      have first := List.head?_dropWhile_not (· ≠ ',') line.toList
      rw [found] at first
      simpa using first
    subst stops
    refine ⟨target, ?_, ?_⟩
    · rw [rank, String.toList_ofList, ← found, List.takeWhile_append_dropWhile]
    · rw [rank, String.toList_ofList]
      intro inside
      simpa using List.mem_takeWhile_imp inside

def remarks (line : String) : List Happening :=
  if line.toList.all Text.isBlank then []
  else
    match Seed.parse line with
    | .error error => [.skipped error]
    | .ok _ => []

theorem line_cases (line : String) :
    (line.toList.all Text.isBlank = true ∧ seedsOf [line] = [] ∧ remarks line = []) ∨
    (¬ line.toList.all Text.isBlank = true ∧ ∃ error, Seed.parse line = .error error ∧
      seedsOf [line] = [] ∧ remarks line = [.skipped error]) ∨
    (¬ line.toList.all Text.isBlank = true ∧ ∃ seed, Seed.parse line = .ok seed ∧
      seedsOf [line] = [seed]) := by
  by_cases blank : line.toList.all Text.isBlank = true
  · exact .inl ⟨blank, List.filterMap_cons_none (if_pos blank), if_pos blank⟩
  · cases found : Seed.parse line with
    | error error =>
      have none : (Seed.parse line).toOption = none := by rw [found]; rfl
      refine .inr (.inl ⟨blank, error, rfl, List.filterMap_cons_none ((if_neg blank).trans none), ?_⟩)
      rw [remarks, if_neg blank, found]
    | ok seed =>
      have some : (Seed.parse line).toOption = some seed := by rw [found]; rfl
      exact .inr (.inr ⟨blank, seed, rfl, List.filterMap_cons_some ((if_neg blank).trans some)⟩)

@[simp] theorem remarks_silent (line : String) :
    (remarks line).filterMap (·.event?) = [] ∧ (remarks line).filterMap (·.fetched?) = [] := by
  unfold remarks
  split
  · exact ⟨rfl, rfl⟩
  · split <;> exact ⟨rfl, rfl⟩

/-- A line that is no seed leads to a remark at most, and any other to a round. -/
theorem runLine_cases (fetch : String → Outcome) (limit : Nat) (line : String) :
    (seedsOf [line] = [] ∧ runLine fetch limit line = remarks line) ∨
    ∃ seed, seedsOf [line] = [seed] ∧ runLine fetch limit line = runRound fetch limit seed := by
  obtain ⟨blank, none, remark⟩ | ⟨written, error, found, none, remark⟩ | ⟨written, seed, found, one⟩ :=
    line_cases line
  · exact .inl ⟨none, by simp only [runLine, if_pos blank, remark]⟩
  · exact .inl ⟨none, by simp only [runLine, if_neg written, found, remark]⟩
  · exact .inr ⟨seed, one, by simp only [runLine, if_neg written, found]⟩

theorem runLines_crawled (fetch : String → Outcome) (limit : Nat) (lines : List String)
    (room : ∀ seed ∈ seedsOf lines, ∃ urls, Covers fetch seed.url.text urls ∧ urls.length ≤ limit) :
    ∃ rounds : List Crawled, rounds.map (·.seed) = seedsOf lines ∧
      (∀ round ∈ rounds, round.IsBy 1 ∧ round.fetch = fetch) ∧
      (lines.flatMap (runLine fetch limit)).filterMap (·.event?) = rounds.flatMap (·.events) := by
  induction lines with
  | nil => exact ⟨[], rfl, by simp, rfl⟩
  | cons line lines ih =>
    rw [seedsOf_cons] at room
    obtain ⟨rounds, seeds, crawled, events⟩ :=
      ih fun seed member => room seed (List.mem_append_right _ member)
    rw [seedsOf_cons, List.flatMap_cons, List.filterMap_append, events]
    obtain ⟨none, remark⟩ | ⟨seed, one, run⟩ := runLine_cases fetch limit line
    · rw [none, remark, (remarks_silent line).1]
      exact ⟨rounds, seeds, crawled, rfl⟩
    · obtain ⟨urls, covers, enough⟩ := room seed (List.mem_append_left _ (by simp [one]))
      obtain ⟨round, same, asked, alone, printed⟩ := runRound_crawled covers enough
      rw [one, run, printed]
      refine ⟨round :: rounds, by rw [List.map_cons, seeds, same, List.singleton_append], ?_, rfl⟩
      intro other member
      rcases List.mem_cons.mp member with rfl | old
      · exact ⟨alone, asked⟩
      · exact crawled other old

theorem History.result_of_rounds {history : History} {rounds : List Crawled}
    (printed : history.events = rounds.flatMap (·.events)) :
    history.result =
      match history.flaw with
      | some flaw => .error ("reading seed lines: " ++ flaw.message)
      | none => .ok rounds.length := by
  rw [History.result, printed, List.countP_flatMap]
  cases history.flaw with
  | some flaw => rfl
  | none => simp [Crawled.events, Function.comp_def, List.countP_map]

theorem runSite_crawls (site : Site) (input : List UInt8) :
    ∃ rounds, Crawls 1 input rounds ∧ (∀ round ∈ rounds, round.fetch = site.fetch) ∧
      (runSite site input).events = rounds.flatMap (·.events) := by
  obtain ⟨rounds, seeds, crawled, events⟩ := runLines_crawled site.fetch site.size
    (Text.Lines.ofBytes input).lines fun seed _ =>
    ⟨_, Site.covers site seed.url.text, Nat.le_of_eq (site.urls_length _)⟩
  exact ⟨rounds, ⟨seeds, fun round member => (crawled round member).1⟩,
    fun round member => (crawled round member).2, events⟩

end PageLoad.Crawl

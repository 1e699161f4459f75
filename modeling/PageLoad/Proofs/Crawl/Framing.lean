import PageLoad.Proofs.Crawl.Append

/-!
What a crawl prints: for each line that is a seed a frame, and nothing else. A frame is a marker, a line for
each task that has been finished, and the totals of these lines. That holds whatever the order of the turns
of the driver and the workers.
-/

namespace PageLoad.Text

/-- Some lines are those of an input before the first that is no text. -/
structure Reads (input : List UInt8) (lines : List String) : Prop where
  split : ∃ early rest, rawLines input = early ++ rest ∧
    early.map dropLineEnd = lines.map (fun line => Utf8.encode line.toList) ∧
    (∀ raw ∈ rest.head?, ¬ Utf8.IsText (dropLineEnd raw)) ∧ (rest = [] ↔ Utf8.IsText input)

theorem reads_ofBytes (input : List UInt8) : Reads input (Lines.ofBytes input).lines := by
  obtain ⟨early, rest, split, lines, ⟨rfl, none⟩ | ⟨raw, later, flaw, rfl, noText, some⟩⟩ :=
    Lines.read_split (rawLines input)
  · exact ⟨early, [], split, lines, nofun, iff_of_true rfl (Lines.flaw_eq_none_iff.mp none)⟩
  · refine ⟨early, raw :: later, split, lines, ?_, iff_of_false nofun ?_⟩
    · intro first same
      obtain rfl := Option.some.inj same
      exact noText
    · intro text
      cases some.symm.trans (Lines.flaw_eq_none_iff.mpr text)

end PageLoad.Text

namespace PageLoad.Crawl
open Number Work Fetch Text

variable {Admits : List Job → Prop} {fetch : String → Outcome} {workers : Nat}

def frame (rank url : String) (elapsed : Double) (reports : List TaskReport) : String :=
  "==" ++ rank ++ "," ++ url ++ "==" ++ "\n" ++ String.join (reports.map fun report => report.csv ++ "\n") ++
    "#" ++ rank ++ "," ++ elapsed.fixed ++ "," ++ toString reports.length ++ "," ++
    toString ((reports.map (·.bytes)).sum % UInt64.size) ++ "\n"

/-- The frames of some lines, one after the other, and how many there are. Lines that are blank or
malformed have none. -/
inductive Frames : List String → String → Nat → Prop where
  | nil : Frames [] "" 0
  | blank {line : String} {rest : List String} {text : String} {count : Nat}
    (nothing : line.toList.all isBlank = true) (frames : Frames rest text count) :
    Frames (line :: rest) text count
  | malformed {line : String} {rest : List String} {text : String} {count : Nat} {error : SeedError}
    (failed : Seed.parse line = .error error) (frames : Frames rest text count) :
    Frames (line :: rest) text count
  | seed {line rank text : String} {url : Url} {target : List Char} {rest : List String} {count : Nat}
    (written : ¬ line.toList.all isBlank = true) (parsed : Seed.parse line = .ok ⟨rank, url⟩)
    (verbatim : line.toList = rank.toList ++ ',' :: target ∧ ',' ∉ rank.toList) (elapsed : Double)
    (reports : List TaskReport) (frames : Frames rest text count) :
    Frames (line :: rest) (frame rank url.text elapsed reports ++ text) (count + 1)

/-- A history is that of a crawl of an input: frames are printed for the lines before the first that is no
text, and the crawl returns how many there are, or fails if there is such a line. -/
structure Framed (input : List UInt8) (history : History) : Prop where
  frames : ∃ count, Frames (Lines.ofBytes input).lines (Event.text .csv history.events) count ∧
    (Utf8.IsText input → history.result = .ok count)
  failed : ¬ Utf8.IsText input → ∃ flaw : Utf8.Flaw,
    history.result = .error ("reading seed lines: " ++ flaw.message)

/-! Rounds as they are printed. -/

theorem csv_summary (summary : RoundSummary) :
    summary.csv = "#" ++ summary.rank ++ "," ++ summary.elapsed.fixed ++ "," ++ toString summary.tasks ++
      "," ++ toString summary.bytes := by
  simp only [RoundSummary.csv, String.intercalate_cons_cons, String.intercalate_singleton,
    String.append_assoc]

theorem text_reports (reports : List TaskReport) :
    Event.text .csv (reports.map .task) = String.join (reports.map fun report => report.csv ++ "\n") := by
  rw [Event.text, List.map_map]
  rfl

theorem text_framed (seed : Seed) (elapsed : Double) (reports : List TaskReport) :
    Event.text .csv (framed seed elapsed reports) = frame seed.rank seed.url.text elapsed reports := by
  have marker : Event.line .csv (.roundStart seed.rank seed.url.text) =
    "==" ++ seed.rank ++ "," ++ seed.url.text ++ "==" := rfl
  have totals (summary : RoundSummary) : Event.line .csv (.roundEnd summary) = summary.csv := rfl
  have nothing : Event.text .csv [] = "" := rfl
  rw [framed, Event.text_append, Event.text_cons, Event.text_cons, text_reports, marker,
    nothing, totals, csv_summary]
  unfold frame
  -- As a variable the total is not computed when both sides are compared.
  generalize (reports.map (·.bytes)).sum % UInt64.size = total
  simp only [String.append_assoc, String.append_empty]

theorem frames_of_crawled {lines : List String} {rounds : List Crawled}
    (seeds : rounds.map (·.seed) = seedsOf lines) (crawled : ∀ round ∈ rounds, round.IsBy workers) :
    Frames lines (Event.text .csv (rounds.flatMap (·.events))) rounds.length := by
  induction lines generalizing rounds with
  | nil =>
    obtain rfl : rounds = [] := List.map_eq_nil_iff.mp seeds
    exact .nil
  | cons line lines ih =>
    rw [seedsOf_cons] at seeds
    obtain ⟨blank, none, _⟩ | ⟨_, error, found, none, _⟩ | ⟨written, seed, found, one⟩ := line_cases line
    · rw [none, List.nil_append] at seeds
      exact .blank blank (ih seeds crawled)
    · rw [none, List.nil_append] at seeds
      exact .malformed found (ih seeds crawled)
    · rw [one, List.singleton_append] at seeds
      obtain ⟨round, others, rfl, rfl, same⟩ := List.map_eq_cons_iff.mp seeds
      obtain ⟨target, verbatim⟩ := Seed.parse_split found
      have rest := ih same fun other member => crawled other (List.mem_cons_of_mem _ member)
      rw [List.flatMap_cons, Event.text_append, (crawled round List.mem_cons_self).framed, text_framed]
      exact .seed written found verbatim round.elapsed round.reports rest

theorem framed_of_crawls {input : List UInt8} {rounds : List Crawled} {history : History}
    (crawls : Crawls workers input rounds) (printed : history.events = rounds.flatMap (·.events))
    (flaw : history.flaw = (Lines.ofBytes input).flaw) : Framed input history := by
  have result := History.result_of_rounds printed
  rw [flaw] at result
  refine ⟨⟨rounds.length, ?_, ?_⟩, ?_⟩
  · rw [printed]
    exact frames_of_crawled crawls.seeds crawls.crawled
  · intro text
    rw [result, Lines.flaw_eq_none_iff.mpr text]
  · intro noText
    obtain ⟨flaw, found⟩ := Option.ne_none_iff_exists'.mp (mt Lines.flaw_eq_none_iff.mp noText)
    exact ⟨flaw, by rw [result, found]⟩

/-! What workers print, whatever the order of their turns. -/

theorem events_toldOf (seed : Seed) (fetch : String → Outcome) (now : Crew Progress Job) :
    (toldOf seed now).filterMap (·.event?) = Crawled.events ⟨seed, fetch, now.state, .zero⟩ := by
  rw [toldOf, List.filterMap_append, Crawled.events, Crawled.reports, ← events_worked]
  rfl

theorem Tells.crawled {lines fetched : List String} {happenings : List Happening}
    (told : Tells Admits fetch workers lines happenings fetched) :
    ∃ rounds : List Crawled, rounds.map (·.seed) = seedsOf lines ∧
      (∀ round ∈ rounds, round.IsBy workers) ∧
      happenings.filterMap (·.event?) = rounds.flatMap (·.events) := by
  induction told with
  | nil => exact ⟨[], rfl, List.forall_mem_nil _, rfl⟩
  | @skip _ _ _ line _ none ih =>
    obtain ⟨rounds, seeds, crawled, printed⟩ := ih
    refine ⟨rounds, ?_, crawled, ?_⟩
    · rw [seedsOf_append, none, List.append_nil, seeds]
    · rw [List.filterMap_append, (remarks_silent line).1, List.append_nil, printed]
  | @round _ _ _ line seed now _ one reached through ih =>
    obtain ⟨rounds, seeds, crawled, printed⟩ := ih
    obtain ⟨schedule, ran⟩ := reached.reaches
    have ended : Crawled.IsBy ⟨seed, fetch, now.state, .zero⟩ workers :=
      ⟨schedule, now, ran, by rw [through]; rfl, rfl⟩
    refine ⟨rounds ++ [⟨seed, fetch, now.state, .zero⟩], ?_, ?_, ?_⟩
    · rw [seedsOf_append, one, List.map_append, seeds]
      rfl
    · intro round member
      rcases List.mem_append.mp member with old | new
      · exact crawled round old
      · exact List.mem_singleton.mp new ▸ ended
    · rw [List.filterMap_append, printed, events_toldOf seed fetch, List.flatMap_append,
        List.flatMap_singleton]

/-- Whatever a site is, how many workers there are and what the bytes of an input are: a crawl ends,
whatever the order of the turns. It has then printed one frame for each seed among the lines before the first
that is no text, in order, and nothing else; and it returns how many these are, or fails if not all of the
input is text. A crawl that works through its rounds in order does the same. -/
theorem crawl_framed (site : Site) (workers : Nat) (input : List UInt8) :
    Reads input (Lines.ofBytes input).lines ∧
    ((Pool.start (poolSize workers)).read (Lines.ofBytes input).lines).Ends site.fetch ∧
    (∀ schedule last, ((Pool.start (poolSize workers)).read (Lines.ofBytes input).lines).run? site.fetch
      schedule = some last → last.IsDone → Framed input ⟨last.happenings, (Lines.ofBytes input).flaw⟩) ∧
    Framed input (runSite site input) := by
  have manned : poolSize workers ≠ 0 := Nat.ne_of_gt (Nat.le_max_right workers 1)
  have rule := isRule_any site.fetch
  have governed := (Pool.governed_start rule (poolSize workers)).read rfl (Lines.ofBytes input).lines
  refine ⟨reads_ofBytes input, governed.ends manned, ?_, ?_⟩
  · intro schedule last ran done
    have after := governed.run rule (Pool.runs_of_run? ran)
    obtain ⟨rounds, seeds, crawled, printed⟩ := (after.told.of_done done).crawled
    exact framed_of_crawls ⟨seeds, crawled⟩ printed rfl
  · obtain ⟨rounds, crawls, _, printed⟩ := runSite_crawls site input
    exact framed_of_crawls crawls printed rfl

end PageLoad.Crawl

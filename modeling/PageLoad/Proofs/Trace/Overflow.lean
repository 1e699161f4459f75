import PageLoad.Proofs.Trace.Index
import PageLoad.Proofs.Trace.Paging

/-!
Which inputs are too much to read. A page ends with a panic where the lengths of its records do not add up
to a number of 64 bits, however small each of them is; nothing else in an input does so.
-/

namespace PageLoad.Trace.Reader
open Text

def EndsPage : Except Utf8.Flaw String → Prop
  | .ok line => isMarker line = true
  | .error _ => True

/-- The lines up to the first marker or to the end of the input, if all of them are text. -/
inductive Opens : List (Except Utf8.Flaw String) → List String → Prop where
  | last : Opens [] []
  | marker {line : String} {rest : List (Except Utf8.Flaw String)} (marks : isMarker line = true) :
      Opens (.ok line :: rest) []
  | line {line : String} {rest : List (Except Utf8.Flaw String)} {block : List String}
      (plain : isMarker line = false) (opens : Opens rest block) : Opens (.ok line :: rest) (line :: block)

def Behind (lines : List (Except Utf8.Flaw String)) (block : List String) : Prop :=
  ∃ last rest, EndsPage last ∧ last :: rest <:+ lines ∧ Opens rest block

def IsBlock (lines : List (Except Utf8.Flaw String)) (block : List String) : Prop :=
  Opens lines block ∨ Behind lines block

variable {line : String} {first : Except Utf8.Flaw String} {lines : List (Except Utf8.Flaw String)}
  {block : List String} {records : List Asset} {found : Found}

theorem opens_nil : Opens [] block ↔ block = [] := by
  constructor
  · rintro ⟨⟩
    rfl
  · rintro rfl
    exact .last

theorem not_opens_error {flaw : Utf8.Flaw} : ¬ Opens (.error flaw :: lines) block := nofun

theorem opens_marker (marks : isMarker line = true) : Opens (.ok line :: lines) block ↔ block = [] := by
  constructor
  · intro opens
    cases opens with
    | marker => rfl
    | line plain => exact absurd (marks.symm.trans plain) (by decide)
  · rintro rfl
    exact .marker marks

theorem opens_line (plain : isMarker line = false) :
    Opens (.ok line :: lines) block ↔ ∃ rest, block = line :: rest ∧ Opens lines rest := by
  constructor
  · intro opens
    cases opens with
    | marker marks => exact absurd (marks.symm.trans plain) (by decide)
    | line _ opens => exact ⟨_, rfl, opens⟩
  · rintro ⟨rest, rfl, opens⟩
    exact .line plain opens

theorem not_behind_nil : ¬ Behind [] block := by
  rintro ⟨last, rest, _, suffix, _⟩
  cases List.suffix_nil.mp suffix

theorem behind_cons : Behind (first :: lines) block ↔
    (EndsPage first ∧ Opens lines block) ∨ Behind lines block := by
  constructor
  · rintro ⟨last, rest, ends, suffix, opens⟩
    obtain same | suffix := List.suffix_cons_iff.mp suffix
    · obtain ⟨rfl, rfl⟩ := List.cons.inj same
      exact .inl ⟨ends, opens⟩
    · exact .inr ⟨last, rest, ends, suffix, opens⟩
  · rintro (⟨ends, opens⟩ | ⟨last, rest, ends, suffix, opens⟩)
    · exact ⟨first, lines, ends, List.suffix_refl _, opens⟩
    · exact ⟨last, rest, ends, suffix.trans (List.suffix_cons first lines), opens⟩

theorem behind_of_ends (ends : EndsPage first) : Behind (first :: lines) block ↔ IsBlock lines block := by
  rw [behind_cons, IsBlock, and_iff_right ends]

theorem behind_of_plain (plain : isMarker line = false) :
    Behind (.ok line :: lines) block ↔ Behind lines block := by
  rw [behind_cons, EndsPage, plain]
  simp

theorem exists_isBlock {Holds : List String → Prop} : (∃ block, IsBlock lines block ∧ Holds block) ↔
    (∃ block, Opens lines block ∧ Holds block) ∨ ∃ block, Behind lines block ∧ Holds block := by
  simp only [IsBlock, or_and_right, exists_or]

theorem exists_opens_line (plain : isMarker line = false) :
    (∃ block, Opens (.ok line :: lines) block ∧ conclude? (records ++ recordsOf block) = some found) ↔
      ∃ block, Opens lines block ∧
        conclude? (records ++ (recorded? line).toList ++ recordsOf block) = some found := by
  simp only [opens_line plain]
  constructor
  · rintro ⟨_, ⟨block, rfl, opens⟩, concluded⟩
    rw [recordsOf_cons, ← List.append_assoc] at concluded
    exact ⟨block, opens, concluded⟩
  · rintro ⟨block, opens, concluded⟩
    refine ⟨line :: block, ⟨block, rfl, opens⟩, ?_⟩
    rw [recordsOf_cons, ← List.append_assoc]
    exact concluded

/-- What is found are the lines that are no text and what the pages come to. The records that have been
read belong to the first page. -/
theorem mem_founds : found ∈ founds records lines ↔
    (∃ flaw, .error flaw ∈ lines ∧ found = .unreadable flaw) ∨
    (∃ block, Opens lines block ∧ conclude? (records ++ recordsOf block) = some found) ∨
    ∃ block, Behind lines block ∧ conclude? (recordsOf block) = some found := by
  induction lines generalizing records with
  | nil =>
    rw [founds, Option.mem_toList]
    simp [opens_nil, not_behind_nil, recordsOf_nil]
  | cons first rest ih =>
    -- behind the end of a page, the first page of the rest is as good as any other
    have fresh : found ∈ founds [] rest ↔ (∃ flaw, .error flaw ∈ rest ∧ found = .unreadable flaw) ∨
        ∃ block, IsBlock rest block ∧ conclude? (recordsOf block) = some found := by
      rw [ih, exists_isBlock]
      rfl
    cases first with
    | error flaw =>
      have ends : EndsPage (.error flaw) := trivial
      rw [founds, List.mem_cons, fresh]
      simp only [behind_of_ends ends, not_opens_error, false_and, exists_false, false_or, List.mem_cons,
        Except.error.injEq, or_and_right, exists_or, exists_eq_left, or_assoc]
    | ok line =>
      rw [founds]
      cases marks : isMarker line with
      | true =>
        have ends : EndsPage (.ok line) := marks
        rw [if_pos rfl, List.mem_append, Option.mem_toList, fresh]
        simp only [behind_of_ends ends, opens_marker marks, exists_eq_left, recordsOf_nil, List.append_nil,
          List.mem_cons, reduceCtorEq, false_or]
        exact or_left_comm
      | false =>
        rw [if_neg Bool.false_ne_true, ih, exists_opens_line marks]
        simp only [behind_of_plain marks, List.mem_cons, reduceCtorEq, false_or]

theorem found?_ofBytes {input : List UInt8} : (∃ count, (ofBytes input).found? count = some found) ↔
    (∃ flaw, .error flaw ∈ (ofBytes input).unread ∧ found = .unreadable flaw) ∨
    ∃ block, IsBlock (ofBytes input).unread block ∧ conclude? (recordsOf block) = some found := by
  simp only [found?_eq (sound_ofBytes input)]
  rw [← List.mem_iff_getElem?, mem_founds, exists_isBlock]
  rfl

theorem conclude?_eq_page {page : Page} : conclude? records = some (.page page) ↔
    page.records = records ∧ records ≠ [] ∧ (records.map (·.length)).sum < UInt64.size := by
  rw [conclude?, Page.ofRecords?, Page.totalBytes_eq_sum]
  obtain ⟨recorded⟩ := page
  by_cases none : records = []
  · simp [none]
  · by_cases fits : (records.map (·.length)).sum < UInt64.size
    · simp [none, fits, eq_comm]
    · simp [none, fits]

theorem conclude?_eq_overflow : conclude? records = some .overflow ↔
    UInt64.size ≤ (records.map (·.length)).sum := by
  rw [conclude?, Page.ofRecords?, Page.totalBytes_eq_sum, ← Nat.not_lt]
  by_cases none : records = []
  · simp [none, UInt64.size]
  · by_cases fits : (records.map (·.length)).sum < UInt64.size
    · simp [none, fits]
    · simp [none, fits]

theorem conclude?_ne_unreadable (flaw : Utf8.Flaw) : conclude? records ≠ some (.unreadable flaw) := by
  rw [conclude?]
  split
  next => simp
  next => split <;> simp

/-- Asking for pages again and again panics exactly if the lengths of the records of some page are too much.
Otherwise what it gives are the pages that have records, each with the sum of their lengths, and an error
for each line that is no text. -/
theorem panics_iff (input : List UInt8) :
    ((∃ count, (ofBytes input).found? count = some .overflow) ↔
      ∃ block, IsBlock (ofBytes input).unread block ∧
        UInt64.size ≤ ((recordsOf block).map (·.length)).sum) ∧
    (∀ page, (∃ count, (ofBytes input).found? count = some (.page page)) ↔
      ∃ block, IsBlock (ofBytes input).unread block ∧ page.records = recordsOf block ∧
        recordsOf block ≠ [] ∧ ((recordsOf block).map (·.length)).sum < UInt64.size) ∧
    (∀ flaw, (∃ count, (ofBytes input).found? count = some (.unreadable flaw)) ↔
      .error flaw ∈ (ofBytes input).unread) ∧
    ∀ count page, (ofBytes input).found? count = some (.page page) →
      ∃ index, Index.ofRecords? page.records = some index ∧ index.Shows page ∧
        index.totalBytes = (page.records.map (·.length)).sum := by
  have pages (page : Page) : (∃ count, (ofBytes input).found? count = some (.page page)) ↔
      ∃ block, IsBlock (ofBytes input).unread block ∧ page.records = recordsOf block ∧
        recordsOf block ≠ [] ∧ ((recordsOf block).map (·.length)).sum < UInt64.size := by
    simp [found?_ofBytes, conclude?_eq_page]
  refine ⟨?_, pages, ?_, ?_⟩
  · simp [found?_ofBytes, conclude?_eq_overflow]
  · intro flaw
    simp [found?_ofBytes, conclude?_ne_unreadable]
  · intro count page asked
    obtain ⟨block, _, same, _, fits⟩ := (pages page).mp ⟨count, asked⟩
    rw [← same, ← Page.totalBytes_eq_sum] at fits
    obtain ⟨index, entered⟩ := Option.isSome_iff_exists.mp ((Index.ofRecords?_isSome page.records).mpr fits)
    have shows := Index.shows_of_ofRecords? entered
    exact ⟨index, entered, shows, shows.totalBytes.trans (Page.totalBytes_eq_sum page)⟩

def tooLong : List UInt8 :=
  ("0,0,0,text/html,18446744073709551615,0.00,http://a/\n" ++
    "0.0,0,1,image/png,1,0.00,http://a/x.png\n").toUTF8.toList

theorem reading_may_panic :
    ¬ ∀ (input : List UInt8) (count : Nat), (ofBytes input).found? count ≠ some .overflow := by
  intro never
  have panics : (ofBytes tooLong).found? 0 = some .overflow := by decide +kernel
  exact never tooLong 0 panics

end PageLoad.Trace.Reader

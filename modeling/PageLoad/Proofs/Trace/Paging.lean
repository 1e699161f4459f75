import PageLoad.Proofs.Text.Lines
import PageLoad.Trace.Paging

/-!
Pages that are asked for one at a time are those between the markers, each with the records that its lines
hold. A page without records is none, and the last page needs no marker behind it.
-/

namespace PageLoad.Trace
open Text

def recorded? (line : String) : Option Asset :=
  if isPassedOver line then none else (Asset.parse line).toOption

def remarks (line : String) : List Step :=
  if isPassedOver line then []
  else
    match Asset.parse line with
    | .ok _ => []
    | .error error => [.skipped line error]

def recordsOf (lines : List String) : List Asset := lines.filterMap recorded?

/-- The records of each page of some lines that has any. Markers come between pages. -/
def pageRecords (lines : List String) : List (List Asset) :=
  ((lines.splitOnP isMarker).map recordsOf).filter (· ≠ [])

theorem recordsOf_nil : recordsOf [] = [] := rfl

theorem recordsOf_cons (line : String) (lines : List String) :
    recordsOf (line :: lines) = (recorded? line).toList ++ recordsOf lines := by
  cases found : recorded? line <;> simp [recordsOf, found]

theorem steps_cons (flaw : Option Utf8.Flaw) (records : List Asset) (line : String) (rest : List String) :
    steps flaw records (line :: rest) =
      if isMarker line then close records (steps flaw [] rest)
      else remarks line ++ steps flaw (records ++ (recorded? line).toList) rest := by
  rw [steps, remarks, recorded?]
  cases isPassedOver line with
  | true => simp
  | false => cases Asset.parse line <;> simp [Except.toOption]

def IsMarkerLine (bytes : List UInt8) : Prop :=
  ∃ text, '\n' ∉ text ∧ bytes = Utf8.encode ('=' :: '=' :: text) ++ [0x0A]

theorem lineOf_marker {bytes : List UInt8} (marker : IsMarkerLine bytes) :
    ∃ line, isMarker line = true ∧ ∀ rest,
      (rawLines (bytes ++ rest)).map lineOf = .ok line :: (rawLines rest).map lineOf := by
  obtain ⟨text, plain, rfl⟩ := marker
  have plain : '\n' ∉ '=' :: '=' :: text := by simpa using plain
  obtain ⟨line, decoded, shape⟩ := decode_dropLineEnd plain
  have starts : ∃ more, line = '=' :: '=' :: more := by
    rcases shape with rfl | whole
    · exact ⟨text, rfl⟩
    · rcases line with _ | ⟨first, _ | ⟨second, more⟩⟩ <;> simp at whole
      obtain ⟨rfl, rfl, _⟩ := whole
      exact ⟨more, rfl⟩
  obtain ⟨more, rfl⟩ := starts
  refine ⟨String.ofList ('=' :: '=' :: more), ?_, fun rest => ?_⟩
  · simp [isMarker]
  · rw [List.append_assoc, List.singleton_append, rawLines_append (Utf8.newline_not_mem_encode plain),
      List.map_cons, lineOf, decoded]
    rfl

namespace Reader

theorem conclude?_nil : conclude? [] = none := rfl

theorem readOn_marker {line : String} (marker : isMarker line = true) (records : List Asset)
    (rest : List (Except Utf8.Flaw String)) :
    readOn records (.ok line :: rest) =
      if records = [] then readOn [] rest else (⟨rest, false⟩, [], conclude? records) := by
  rw [readOn, if_pos marker]

theorem readOn_line {line : String} (plain : isMarker line = false) (records : List Asset)
    (rest : List (Except Utf8.Flaw String)) :
    readOn records (.ok line :: rest) =
      ((readOn (records ++ (recorded? line).toList) rest).1,
        remarks line ++ (readOn (records ++ (recorded? line).toList) rest).2.1,
        (readOn (records ++ (recorded? line).toList) rest).2.2) := by
  rw [readOn, plain, if_neg Bool.false_ne_true, remarks, recorded?]
  cases isPassedOver line with
  | true => simp
  | false => cases Asset.parse line <;> simp [Except.toOption]

theorem readOn_ends (records : List Asset) (lines : List (Except Utf8.Flaw String)) :
    ((readOn records lines).2.2 = none → (readOn records lines).1.finished = true) ∧
      ((readOn records lines).1.finished = true → (readOn records lines).1.unread = []) := by
  induction lines generalizing records with
  | nil => exact ⟨fun _ => rfl, fun _ => rfl⟩
  | cons line rest ih =>
    cases line with
    | error flaw => exact ⟨nofun, nofun⟩
    | ok line =>
      cases marker : isMarker line with
      | false =>
        rw [readOn_line marker]
        exact ih _
      | true =>
        rw [readOn_marker marker]
        split
        next => exact ih []
        next some =>
          refine ⟨fun none => ?_, nofun⟩
          rw [conclude?, if_neg some] at none
          split at none <;> cases none

/-! What the lines that are left come to. -/

/-- All that is found from some lines on, some records of the page that is open having been read. -/
def founds (records : List Asset) : List (Except Utf8.Flaw String) → List Found
  | [] => (conclude? records).toList
  | .error flaw :: rest => .unreadable flaw :: founds [] rest
  | .ok line :: rest =>
    if isMarker line then (conclude? records).toList ++ founds [] rest
    else founds (records ++ (recorded? line).toList) rest

/-- Reading on finds the first of what is left, and leaves the others. -/
theorem founds_readOn (records : List Asset) (lines : List (Except Utf8.Flaw String)) :
    founds records lines =
      (readOn records lines).2.2.toList ++ founds [] (readOn records lines).1.unread := by
  induction lines generalizing records with
  | nil => exact (List.append_nil _).symm
  | cons line rest ih =>
    cases line with
    | error flaw => rfl
    | ok line =>
      rw [founds]
      cases marker : isMarker line with
      | false =>
        rw [readOn_line marker, if_neg Bool.false_ne_true]
        exact ih _
      | true =>
        rw [readOn_marker marker, if_pos rfl]
        split
        next none => rw [none, conclude?_nil, Option.toList_none, List.nil_append, ih]
        next => rfl

def Sound (reader : Reader) : Prop := reader.finished = true → reader.unread = []

theorem nextPage_finds {reader : Reader} (sound : reader.Sound) :
    reader.nextPage.1.Sound ∧
      founds [] reader.unread = reader.nextPage.2.2.toList ++ founds [] reader.nextPage.1.unread ∧
      (reader.nextPage.2.2 = none → reader.nextPage.1.unread = []) := by
  rw [nextPage]
  split
  next finished =>
    rw [sound finished]
    exact ⟨sound, rfl, fun _ => rfl⟩
  next =>
    have ⟨ends, empty⟩ := readOn_ends [] reader.unread
    exact ⟨empty, founds_readOn [] reader.unread, fun none => empty (ends none)⟩

/-- Asking again and again finds what is left, one after the other, and then nothing for ever. -/
theorem found?_eq {reader : Reader} (sound : reader.Sound) (count : Nat) :
    reader.found? count = (founds [] reader.unread)[count]? := by
  induction count generalizing reader with
  | zero =>
    have ⟨_, finds, empty⟩ := nextPage_finds sound
    rw [found?, finds]
    cases found : reader.nextPage.2.2 with
    | some found => rfl
    | none => rw [empty found, founds, conclude?_nil, Option.toList_none, List.append_nil, List.getElem?_nil]
  | succ count ih =>
    have ⟨next, finds, empty⟩ := nextPage_finds sound
    rw [found?, ih next, finds]
    cases found : reader.nextPage.2.2 with
    | some found => rfl
    | none => rw [empty found, founds, conclude?_nil, Option.toList_none, List.append_nil, List.getElem?_nil,
        List.getElem?_nil]

theorem sound_ofBytes (input : List UInt8) : (ofBytes input).Sound := by
  intro finished
  cases finished

/-- Nothing behind a marker has to do with what is in front of it. -/
theorem founds_append {line : String} (marker : isMarker line = true) (records : List Asset)
    (before after : List (Except Utf8.Flaw String)) :
    founds records (before ++ .ok line :: after) = founds records before ++ founds [] after := by
  induction before generalizing records with
  | nil => rw [List.nil_append, founds, founds, if_pos marker]
  | cons first before ih =>
    cases first with
    | error flaw => rw [List.cons_append, founds, ih, founds, List.cons_append]
    | ok first =>
      rw [List.cons_append, founds, founds]
      split
      next => rw [ih, List.append_assoc]
      next => rw [ih]

theorem founds_of_split (records : List Asset) (lines : List String) {first : List String}
    {others : List (List String)} (split : lines.splitOnP isMarker = first :: others) :
    founds records (lines.map .ok) =
      ((records ++ recordsOf first) :: others.map recordsOf).filterMap conclude? := by
  induction lines generalizing records first others with
  | nil =>
    cases split
    cases found : conclude? records <;> simp [founds, recordsOf, found]
  | cons line rest ih =>
    rw [List.splitOnP_cons_eq_if_modifyHead] at split
    obtain ⟨next, others, later⟩ := List.exists_cons_of_ne_nil (List.splitOnP_ne_nil isMarker rest)
    rw [List.map_cons, founds]
    cases marker : isMarker line with
    | true =>
      rw [marker, if_pos rfl, later] at split
      obtain ⟨rfl, rfl⟩ := List.cons.inj split
      rw [if_pos rfl, ih [] later, List.nil_append, recordsOf_nil, List.append_nil, List.map_cons]
      cases found : conclude? records <;> simp [found]
    | false =>
      rw [marker, if_neg Bool.false_ne_true, later, List.modifyHead_cons] at split
      obtain ⟨rfl, rfl⟩ := List.cons.inj split
      rw [if_neg Bool.false_ne_true, ih _ later, recordsOf_cons, List.append_assoc]

/-! Whole inputs. -/

def Yields (reader : Reader) (pages : List Page) : Prop :=
  ∀ count, reader.found? count = pages[count]?.map .page

theorem yields_iff {reader : Reader} (sound : reader.Sound) {pages : List Page} :
    reader.Yields pages ↔ founds [] reader.unread = pages.map .page := by
  constructor
  · intro yields
    apply List.ext_getElem?
    intro count
    rw [← found?_eq sound, yields, List.getElem?_map]
  · intro same count
    rw [found?_eq sound, same, List.getElem?_map]

theorem yields_ofBytes {input : List UInt8} {pages : List Page} :
    (ofBytes input).Yields pages ↔ founds [] ((rawLines input).map lineOf) = pages.map .page :=
  yields_iff (sound_ofBytes input)

theorem lineOf_of_flawless {raws : List (List UInt8)} (flawless : (Lines.read raws).flaw = none) :
    raws.map lineOf = (Lines.read raws).lines.map .ok := by
  induction raws with
  | nil => rfl
  | cons raw raws ih =>
    rw [Lines.read] at flawless ⊢
    rw [List.map_cons, lineOf]
    cases decoded : Utf8.decode (dropLineEnd raw) with
    | error flaw =>
      rw [decoded] at flawless
      cases flawless
    | ok line =>
      rw [decoded] at flawless
      rw [ih flawless]
      rfl

theorem conclude?_of_fits {records : List Asset} (some : records ≠ [])
    (fits : (Page.mk records).totalBytes < UInt64.size) : conclude? records = .some (.page ⟨records⟩) := by
  rw [conclude?, if_neg some, Page.ofRecords?, if_pos fits]

theorem filterMap_conclude? {groups : List (List Asset)}
    (fits : ∀ records ∈ groups.filter (· ≠ []), (Page.mk records).totalBytes < UInt64.size) :
    groups.filterMap conclude? = (groups.filter (· ≠ [])).map fun records => .page ⟨records⟩ := by
  induction groups with
  | nil => rfl
  | cons records groups ih =>
    by_cases empty : records = []
    · have same : (records :: groups).filter (· ≠ []) = groups.filter (· ≠ []) :=
        List.filter_cons_of_neg (by simpa using empty)
      rw [same] at fits ⊢
      rw [empty, List.filterMap_cons_none conclude?_nil, ih fits]
    · have same : (records :: groups).filter (· ≠ []) = records :: groups.filter (· ≠ []) :=
        List.filter_cons_of_pos (by simpa using empty)
      rw [same] at fits ⊢
      have first := conclude?_of_fits empty (fits records List.mem_cons_self)
      rw [List.filterMap_cons_some first, ih fun other member => fits other (List.mem_cons_of_mem _ member),
        List.map_cons]

theorem yields_of_isText {input : List UInt8} (text : Utf8.IsText input)
    (fits : ∀ records ∈ pageRecords (Lines.ofBytes input).lines,
      (Page.mk records).totalBytes < UInt64.size) :
    (ofBytes input).Yields ((pageRecords (Lines.ofBytes input).lines).map .mk) := by
  have lines : (rawLines input).map lineOf = (Lines.ofBytes input).lines.map .ok :=
    lineOf_of_flawless (Lines.flaw_eq_none_iff.mpr text)
  obtain ⟨first, others, split⟩ :=
    List.exists_cons_of_ne_nil (List.splitOnP_ne_nil isMarker (Lines.ofBytes input).lines)
  rw [yields_ofBytes, lines, founds_of_split [] _ split, List.nil_append,
    ← List.map_cons, ← split, filterMap_conclude? fits, List.map_map]
  rfl

theorem yields_append {before marker after : List UInt8} (ended : before = [] ∨ before.getLast? = some 0x0A)
    (isMarker : IsMarkerLine marker) {pages more : List Page} (first : (ofBytes before).Yields pages)
    (later : (ofBytes after).Yields more) :
    (ofBytes (before ++ marker ++ after)).Yields (pages ++ more) := by
  obtain ⟨line, marks, lines⟩ := lineOf_marker isMarker
  rw [yields_ofBytes] at first later ⊢
  rw [List.append_assoc, rawLines_append_of_ended ended, List.map_append, lines, founds_append marks, first,
    later, List.map_append]

theorem yields_nil : (ofBytes []).Yields [] := yields_ofBytes.mpr rfl

/-! Reading all pages at once. -/

def stepsFrom (records : List Asset) : List (Except Utf8.Flaw String) → List Step
  | [] => close records []
  | .error flaw :: _ => [.unreadable flaw]
  | .ok line :: rest =>
    if isMarker line then close records (stepsFrom [] rest)
    else remarks line ++ stepsFrom (records ++ (recorded? line).toList) rest

theorem stepsFrom_lineOf (records : List Asset) (raws : List (List UInt8)) :
    stepsFrom records (raws.map lineOf) =
      Trace.steps (Lines.read raws).flaw records (Lines.read raws).lines := by
  induction raws generalizing records with
  | nil => rfl
  | cons raw raws ih =>
    rw [Lines.read, List.map_cons, lineOf]
    cases decoded : Utf8.decode (dropLineEnd raw) with
    | error flaw => rfl
    | ok line =>
      change stepsFrom records (.ok (String.ofList line) :: raws.map lineOf) = _
      rw [stepsFrom, steps_cons, ih, ih]

theorem close_eq (records : List Asset) (next : List Step) :
    close records next = if records = [] then next else proceed (conclude? records) next := by
  rw [close, conclude?]
  split
  next => rfl
  next => cases Page.ofRecords? records <;> rfl

theorem stepsFrom_readOn (records : List Asset) (lines : List (Except Utf8.Flaw String)) :
    stepsFrom records lines = (readOn records lines).2.1 ++
      proceed (readOn records lines).2.2 (stepsFrom [] (readOn records lines).1.unread) := by
  induction lines generalizing records with
  | nil =>
    rw [stepsFrom, close_eq, readOn]
    split
    next none =>
      rw [none]
      rfl
    next => rfl
  | cons line rest ih =>
    cases line with
    | error flaw => rfl
    | ok line =>
      rw [stepsFrom]
      cases marker : isMarker line with
      | false => rw [readOn_line marker, if_neg Bool.false_ne_true, ih, List.append_assoc]
      | true =>
        rw [readOn_marker marker, if_pos rfl, close_eq]
        split
        next => exact ih []
        next => rfl

theorem readOn_unread_lt (records : List Asset) {lines : List (Except Utf8.Flaw String)} (some : lines ≠ []) :
    (readOn records lines).1.unread.length < lines.length := by
  induction lines generalizing records with
  | nil => exact absurd rfl some
  | cons line rest ih =>
    have later (records : List Asset) : (readOn records rest).1.unread.length ≤ rest.length := by
      by_cases last : rest = []
      · rw [last]
        exact Nat.le_refl 0
      · exact Nat.le_of_lt (ih records last)
    rw [List.length_cons, Nat.lt_succ_iff]
    cases line with
    | error flaw => exact Nat.le_refl _
    | ok line =>
      cases marker : isMarker line with
      | false =>
        rw [readOn_line marker]
        exact later _
      | true =>
        rw [readOn_marker marker]
        split
        next => exact later []
        next => exact Nat.le_refl _

theorem stepsFrom_eq_steps {reader : Reader} (sound : reader.Sound) {count : Nat}
    (enough : reader.unread.length < count) : stepsFrom [] reader.unread = reader.steps count := by
  induction count generalizing reader with
  | zero => exact absurd enough (Nat.not_lt_zero _)
  | succ count ih =>
    by_cases finished : reader.finished = true
    · have asked : reader.nextPage = (reader, [], none) := if_pos finished
      rw [sound finished, steps, asked]
      rfl
    · have asked : reader.nextPage = readOn [] reader.unread := if_neg finished
      rw [stepsFrom_readOn, steps, asked]
      cases empty : reader.unread with
      | nil => rfl
      | cons line rest =>
        have ⟨_, next⟩ := readOn_ends [] (line :: rest)
        have shorter := readOn_unread_lt [] (List.cons_ne_nil line rest)
        rw [empty] at enough
        rw [ih next (by omega)]

theorem read_eq_steps (input : List UInt8) {count : Nat} (enough : (rawLines input).length < count) :
    read input = (ofBytes input).steps count := by
  rw [← stepsFrom_eq_steps (sound_ofBytes input) (by simpa [ofBytes] using enough)]
  exact (stepsFrom_lineOf [] (rawLines input)).symm

end Reader

/-- Reading an input at once comes across what asking for one page after another does. For every text none
of whose pages is too large, that is the pages between its markers that have a record, and then nothing for
ever. An input that ends in a line feed keeps its pages when a marker is put behind it, and those of what
follows the marker come after them. -/
theorem pages_between_markers (input : List UInt8) :
    (∀ count, (rawLines input).length < count → read input = (Reader.ofBytes input).steps count) ∧
    (Utf8.IsText input →
      (∀ records ∈ pageRecords (Lines.ofBytes input).lines,
        (Page.mk records).totalBytes < UInt64.size) →
      ∃ pages, (pageRecords (Lines.ofBytes input).lines).map Page.ofRecords? = pages.map some ∧
        (Reader.ofBytes input).Yields pages) ∧
    (input = [] ∨ input.getLast? = some 0x0A → ∀ marker, IsMarkerLine marker →
      ∀ pages, (Reader.ofBytes input).Yields pages →
        (Reader.ofBytes (input ++ marker)).Yields pages ∧
        ∀ after more, (Reader.ofBytes after).Yields more →
          (Reader.ofBytes (input ++ marker ++ after)).Yields (pages ++ more)) := by
  refine ⟨fun _ enough => Reader.read_eq_steps input enough, ?_, ?_⟩
  · intro text fits
    refine ⟨_, ?_, Reader.yields_of_isText text fits⟩
    rw [List.map_map]
    exact List.map_congr_left fun records member => if_pos (fits records member)
  · intro ended marker isMarker pages first
    have alone := Reader.yields_append ended isMarker first Reader.yields_nil
    rw [List.append_nil, List.append_nil] at alone
    exact ⟨alone, fun _ _ later => Reader.yields_append ended isMarker first later⟩

def threeMarkers : List UInt8 :=
  ("==1,http://a/==\n0,0,0,text/html,10,0.10,http://a/\n#1,0.20,1,10\n==2,http://b/==\n" ++
    "==3,http://c/==\nnot,a,record\n0,0,0,text/html,3,0.00,http://c/").toUTF8.toList

theorem pages_between_markers_three :
    (pageRecords (Lines.ofBytes threeMarkers).lines).map (fun records => (Page.mk records).totalBytes) =
        [10, 3] ∧
      ∃ pages, (pageRecords (Lines.ofBytes threeMarkers).lines).map Page.ofRecords? = pages.map some ∧
        (Reader.ofBytes threeMarkers).Yields pages := by
  have lengths : (pageRecords (Lines.ofBytes threeMarkers).lines).map
      (fun records => (Page.mk records).totalBytes) = [10, 3] := by decide +kernel
  have fits : ∀ records ∈ pageRecords (Lines.ofBytes threeMarkers).lines,
      (Page.mk records).totalBytes < UInt64.size := by
    intro records member
    have known : (Page.mk records).totalBytes ∈ [10, 3] := lengths ▸ List.mem_map_of_mem member
    have bounded : ∀ length ∈ [10, 3], length < UInt64.size := by decide
    exact bounded _ known
  have text : Utf8.IsText threeMarkers := ⟨_, (Utf8.toUTF8_toList _).symm⟩
  exact ⟨lengths, (pages_between_markers threeMarkers).2.1 text fits⟩

end PageLoad.Trace

import PageLoad.Crawl.Report
import PageLoad.Proofs.Text.Blank
import PageLoad.Proofs.Text.Lines
import PageLoad.Trace.Reader

/-!
The line of a finished task is read as the asset that it stands for.
-/

namespace PageLoad.Trace
open Number Text Crawl

theorem splitFields_cons (commas : Nat) {field : List Char} (plain : ',' ∉ field) (rest : List Char) :
    splitFields (commas + 1) (field ++ ',' :: rest) = field :: splitFields commas rest := by
  have ⟨taken, left⟩ := split_at_first plain rest
  simp only [splitFields, left, taken]

/-- What holds of the lines of a crawl. An id is not empty, only the URL may hold a comma, and what
is counted and measured has its limits. -/
structure Recordable (report : TaskReport) : Prop where
  id : report.id.toList ≠ [] ∧ ∀ c ∈ report.id.toList, IsDotted c
  parentId : ∀ c ∈ report.parentId.toList, IsDotted c
  contentType : ∀ c ∈ report.contentType.toList, c ≠ ',' ∧ c ≠ '\n'
  bytes : report.bytes < UInt64.size
  elapsed : ∃ nanoseconds, nanoseconds < UInt64.size * nanosecondsPerSecond ∧
    report.elapsed = secondsOf nanoseconds
  url : '\n' ∉ report.url.toList ∧ trim report.url.toList = report.url.toList

/-- An asset is what the line of a task says. Its delay is the number that stands for the decimal that
is printed, and none is nearer to that. -/
structure Asset.Records (report : TaskReport) (asset : Asset) : Prop where
  id : asset.id = report.id
  parentId : asset.parentId = report.parentId
  length : asset.length = report.bytes
  delay : ∃ hundredths units, report.elapsed.fixed = Double.hundredthsText hundredths ∧
    asset.delay = .ofQuotient false hundredths 100 ∧ asset.delay = .finite false units ∧
    Double.IsNearest (hundredths * unitsPerOne) 100 units
  read : readDouble? report.elapsed.fixed.toList = some asset.delay
  url : asset.url = report.url

theorem csv_toList (report : TaskReport) :
    report.csv.toList = report.id.toList ++ ',' :: (report.parentId.toList ++ ',' ::
      ((toString report.depth).toList ++ ',' :: (report.contentType.toList ++ ',' ::
        ((toString report.bytes).toList ++ ',' ::
          (report.elapsed.fixed.toList ++ ',' :: report.url.toList))))) := by
  simp [TaskReport.csv]

theorem fixed_plain (seconds : Double) : ',' ∉ seconds.fixed.toList ∧ '\n' ∉ seconds.fixed.toList := by
  have absent {c : Char} (digit : c.isDigit = false) (point : c ≠ '.') (other : c ∉ Double.wordChars) :
      c ∉ seconds.fixed.toList :=
    fun member => (seconds.fixed_chars c member).elim (fun dotted => dotted.ne digit point rfl) other
  exact ⟨absent rfl (by decide) (by decide), absent rfl (by decide) (by decide)⟩

theorem readDelay_fixed {seconds delay : Double} (read : readDouble? seconds.fixed.toList = some delay)
    (admitted : (delay.isFinite && !delay.isBelowZero) = true) :
    readDelay seconds.fixed.toList = .ok delay := by
  simp only [readDelay, trim_of_plain (isBlank_fixed seconds), read, admitted, if_true]

theorem readLength_toString {length : Nat} (fits : length < UInt64.size) :
    readLength (toString length).toList = .ok length := by
  have plain : ∀ c ∈ (toString length).toList, isBlank c = false := fun c member =>
    isBlank_of_isDigit (isDigit_of_mem member)
  simp only [readLength, trim_of_plain plain, readNat?_toString fits]

theorem trimmed_of_plain {text : String} (plain : ∀ c ∈ text.toList, IsDotted c) :
    trimmed text.toList = text := by
  rw [trimmed, trim_of_plain fun c member => isBlank_of_isDotted (plain c member), String.ofList_toList]

theorem plain_of_isDotted {text : List Char} (known : ∀ c ∈ text, IsDotted c) :
    ',' ∉ text ∧ '\n' ∉ text :=
  ⟨fun member => (known ',' member).ne rfl (by decide) rfl,
    fun member => (known '\n' member).ne rfl (by decide) rfl⟩

/-- What has to hold of a task so that the fields of its line come apart. Only the URL may hold a comma. -/
structure Separable (report : TaskReport) : Prop where
  id : ',' ∉ report.id.toList
  parentId : ',' ∉ report.parentId.toList
  contentType : ',' ∉ report.contentType.toList

theorem Separable.splitFields_csv {report : TaskReport} (separable : Separable report) :
    splitFields 6 report.csv.toList =
      [report.id.toList, report.parentId.toList, (toString report.depth).toList,
        report.contentType.toList, (toString report.bytes).toList, report.elapsed.fixed.toList,
        report.url.toList] := by
  rw [csv_toList, splitFields_cons 5 separable.id, splitFields_cons 4 separable.parentId,
    splitFields_cons 3 (plain_of_isDotted (isDotted_toString _)).1, splitFields_cons 2 separable.contentType,
    splitFields_cons 1 (plain_of_isDotted (isDotted_toString _)).1,
    splitFields_cons 0 (fixed_plain _).1, splitFields]

theorem Separable.parse_csv {report : TaskReport} (separable : Separable report)
    (counted : report.bytes < UInt64.size) {delay : Double}
    (read : readDouble? report.elapsed.fixed.toList = some delay)
    (admitted : (delay.isFinite && !delay.isBelowZero) = true) :
    Asset.parse report.csv = .ok ⟨trimmed report.id.toList, trimmed report.parentId.toList, report.bytes, delay,
      trimmed report.url.toList⟩ := by
  simp only [Asset.parse, separable.splitFields_csv, readLength_toString counted, readDelay_fixed read admitted]
  rfl

namespace Recordable

variable {report : TaskReport}

theorem fixed (recordable : Recordable report) :
    ∃ count units, report.elapsed.fixed = Double.hundredthsText count ∧
      .ofQuotient false count 100 = Double.finite false units ∧
      readDouble? report.elapsed.fixed.toList = some (.finite false units) := by
  obtain ⟨nanoseconds, measured, same⟩ := recordable.elapsed
  obtain ⟨whole, isWhole, bound⟩ := secondsOf_le (by decide : 63 ≤ 64) measured
  obtain ⟨count, units, printed, rounded, read, _⟩ := readDouble?_fixed (by decide) bound
  rw [same, isWhole, printed]
  exact ⟨count, units, rfl, rounded, read⟩

theorem separable (recordable : Recordable report) : Separable report :=
  ⟨(plain_of_isDotted recordable.id.2).1, (plain_of_isDotted recordable.parentId).1,
    fun member => (recordable.contentType ',' member).1 rfl⟩

theorem parse_csv (recordable : Recordable report) :
    ∃ asset, Asset.parse report.csv = .ok asset ∧ asset.Records report := by
  obtain ⟨count, units, printed, rounded, read⟩ := recordable.fixed
  have nearest := Double.ofQuotient_nearest (Nat.succ_pos 99) rounded
  have url : trimmed report.url.toList = report.url := by
    rw [trimmed, recordable.url.2, String.ofList_toList]
  refine ⟨_, recordable.separable.parse_csv recordable.bytes read rfl, trimmed_of_plain recordable.id.2,
    trimmed_of_plain recordable.parentId, rfl, ⟨count, units, printed, rounded.symm, rfl, nearest⟩, read, url⟩

theorem printable_csv (recordable : Recordable report) : Printable report.csv := by
  constructor
  · rw [csv_toList]
    have contentType : '\n' ∉ report.contentType.toList := fun member =>
      (recordable.contentType '\n' member).2 rfl
    simp only [List.mem_append, List.mem_cons, not_or]
    exact ⟨(plain_of_isDotted recordable.id.2).2, by decide,
      (plain_of_isDotted recordable.parentId).2, by decide,
      (plain_of_isDotted (isDotted_toString _)).2, by decide, contentType, by decide,
      (plain_of_isDotted (isDotted_toString _)).2, by decide,
      (fixed_plain _).2, by decide, recordable.url.1⟩
  · obtain ⟨front, split⟩ : ∃ front, report.csv.toList = front ++ ',' :: report.url.toList := by
      rw [csv_toList]
      simp only [← List.cons_append, ← List.append_assoc]
      exact ⟨_, rfl⟩
    rw [split]
    refine bare_append front (by decide) fun ended => ?_
    exact absurd (getLast?_of_trim recordable.url.2 _ ended) (by decide)

theorem csv_proper (recordable : Recordable report) :
    isMarker report.csv = false ∧ isPassedOver report.csv = false := by
  obtain ⟨first, rest, split⟩ := List.exists_cons_of_ne_nil recordable.id.1
  have known : IsDotted first := recordable.id.2 first (split ▸ List.mem_cons_self)
  rw [isMarker, isPassedOver, csv_toList, split]
  have equals : '=' ≠ first := (known.ne rfl (by decide)).symm
  have hash : first ≠ '#' := known.ne rfl (by decide)
  simp [List.isPrefixOf, equals, hash, isBlank_of_isDotted known]

end Recordable

end PageLoad.Trace

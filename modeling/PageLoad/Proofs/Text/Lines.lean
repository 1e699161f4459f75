import PageLoad.Proofs.Text.Utf8
import PageLoad.Text.Lines

/-!
Lines hold no line feed, and text that has been printed line by line is read as these lines.
-/

namespace PageLoad.Text

theorem rawLines_newline (rest : List UInt8) : rawLines (0x0A :: rest) = [0x0A] :: rawLines rest := rfl

theorem rawLines_plain {bytes raw : List UInt8} (member : raw ∈ rawLines bytes) :
    ∃ content, 0x0A ∉ content ∧ (raw = content ∨ raw = content ++ [0x0A]) := by
  induction bytes generalizing raw with
  | nil => cases member
  | cons b rest ih =>
    by_cases feed : b = 0x0A
    · rw [feed, rawLines_newline] at member
      rcases List.mem_cons.mp member with rfl | later
      · exact ⟨[], List.not_mem_nil, .inr rfl⟩
      · exact ih later
    · simp only [rawLines, if_neg feed] at member
      cases found : rawLines rest with
      | nil =>
        rw [found] at member
        refine ⟨[b], ?_, .inl (List.mem_singleton.mp member)⟩
        exact fun same => feed (List.mem_singleton.mp same).symm
      | cons line lines =>
        rw [found] at member ih
        rcases List.mem_cons.mp member with rfl | later
        · obtain ⟨content, plain, shape⟩ := ih List.mem_cons_self
          refine ⟨b :: content, ?_, ?_⟩
          · exact List.not_mem_cons_of_ne_of_not_mem (Ne.symm feed) plain
          · rcases shape with rfl | rfl
            · exact .inl rfl
            · exact .inr rfl
        · exact ih (List.mem_cons_of_mem _ later)

theorem dropLineEnd_newline {content : List UInt8} (bare : content.getLast? ≠ some 0x0D) :
    dropLineEnd (content ++ [0x0A]) = content := by
  rcases List.eq_nil_or_concat content with rfl | ⟨start, last, rfl⟩
  · rfl
  · rw [List.concat_eq_append] at bare ⊢
    have different : last ≠ 0x0D := by simpa using bare
    simp only [dropLineEnd, List.reverse_append, List.reverse_cons, List.reverse_nil,
      List.nil_append, List.singleton_append]
    split
    next same =>
      simp only [List.cons.injEq, true_and] at same
      exact absurd same.1 different
    next same =>
      simp only [List.cons.injEq, true_and] at same
      rw [← same, List.reverse_cons, List.reverse_reverse]
    next differs => exact absurd rfl (differs _)

theorem dropLineEnd_subset (raw : List UInt8) : dropLineEnd raw ⊆ raw := by
  intro b member
  unfold dropLineEnd at member
  split at member
  next start same =>
    have inside : b ∈ raw.reverse := by
      rw [same]
      exact List.mem_cons_of_mem _ (List.mem_cons_of_mem _ (List.mem_reverse.mp member))
    exact List.mem_reverse.mp inside
  next start _ same =>
    have inside : b ∈ raw.reverse := by
      rw [same]
      exact List.mem_cons_of_mem _ (List.mem_reverse.mp member)
    exact List.mem_reverse.mp inside
  next => exact member

theorem newline_not_mem_dropLineEnd {content : List UInt8} (plain : 0x0A ∉ content) :
    0x0A ∉ dropLineEnd (content ++ [0x0A]) := by
  by_cases ended : content.getLast? = some 0x0D
  · obtain ⟨start, rfl⟩ := List.getLast?_eq_some_iff.mp ended
    have same : dropLineEnd (start ++ [0x0D] ++ [0x0A]) = start := by
      simp [dropLineEnd]
    rw [same]
    exact fun member => plain (List.mem_append_left _ member)
  · rw [dropLineEnd_newline ended]
    exact plain

namespace Lines

theorem newline_not_mem {input : List UInt8} {line : String}
    (member : line ∈ (ofBytes input).lines) : '\n' ∉ line.toList := by
  have plain : ∀ raw ∈ rawLines input, 0x0A ∉ dropLineEnd raw := by
    intro raw present
    obtain ⟨content, plain, rfl | rfl⟩ := rawLines_plain present
    · exact fun found => plain (dropLineEnd_subset _ found)
    · exact newline_not_mem_dropLineEnd plain
  unfold ofBytes at member
  generalize rawLines input = raws at member plain
  induction raws with
  | nil => cases member
  | cons raw raws ih =>
    unfold read at member
    cases decoded : Utf8.decode (dropLineEnd raw) with
    | error flaw =>
      rw [decoded] at member
      cases member
    | ok text =>
      rw [decoded] at member
      rcases List.mem_cons.mp member with rfl | later
      · intro found
        rw [String.toList_ofList] at found
        have same : text = Utf8.dropJunk (dropLineEnd raw) := by
          unfold Utf8.decode at decoded
          split at decoded
          · cases decoded
          · exact (Except.ok.inj decoded).symm
        exact plain raw List.mem_cons_self (Utf8.newline_of_mem_dropJunk (same ▸ found))
      · exact ih later fun raw present => plain raw (List.mem_cons_of_mem _ present)

end Lines

theorem rawLines_append {content : List UInt8} (plain : 0x0A ∉ content) (rest : List UInt8) :
    rawLines (content ++ 0x0A :: rest) = (content ++ [0x0A]) :: rawLines rest := by
  induction content with
  | nil => rfl
  | cons b content ih =>
    have feed : b ≠ 0x0A := fun same => plain (same ▸ List.mem_cons_self)
    have others := ih fun member => plain (List.mem_cons_of_mem _ member)
    simp only [List.cons_append, rawLines, if_neg feed, others]

/-- What a line that is printed must not hold, so that it is read as it was. -/
structure Printable (line : String) : Prop where
  plain : '\n' ∉ line.toList
  bare : line.toList.getLast? ≠ some '\r'

theorem bare_append (front : List Char) {c : Char} {rest : List Char} (first : c ≠ '\r')
    (bare : rest.getLast? ≠ some '\r') : (front ++ c :: rest).getLast? ≠ some '\r' := by
  rcases List.eq_nil_or_concat rest with rfl | ⟨start, last, rfl⟩
  · rw [List.getLast?_concat]
    exact fun same => first (Option.some.inj same)
  · rw [List.concat_eq_append] at bare ⊢
    rw [List.getLast?_concat] at bare
    rw [← List.cons_append, ← List.append_assoc, List.getLast?_concat]
    exact bare

namespace Printable

theorem plain_bytes {line : String} (printable : Printable line) :
    0x0A ∉ Utf8.encode line.toList := Utf8.newline_not_mem_encode printable.plain

theorem bare_bytes {line : String} (printable : Printable line) :
    (Utf8.encode line.toList).getLast? ≠ some 0x0D := by
  rcases List.eq_nil_or_concat line.toList with empty | ⟨start, last, split⟩
  · rw [empty]
    exact nofun
  · intro found
    have ends := List.getLast?_eq_some_getLast (String.utf8EncodeChar_ne_nil (c := last))
    rw [split, List.concat_eq_append, Utf8.encode, List.flatMap_append, List.flatMap_singleton,
      List.getLast?_append, ends, Option.some_or] at found
    have same := Utf8.toNat_of_mem_encodeChar (List.mem_of_getLast? (ends.trans found)) (by decide)
    apply printable.bare
    rw [split, List.concat_eq_append, List.getLast?_concat]
    exact congrArg some (Char.toNat_inj.mp same)

end Printable

theorem Lines.ofBytes_printed (lines : List String) (printable : ∀ line ∈ lines, Printable line) :
    Lines.ofBytes (Utf8.encode (lines.flatMap fun line => line.toList ++ ['\n'])) = ⟨lines, none⟩ := by
  induction lines with
  | nil => rfl
  | cons line lines ih =>
    have first := printable line List.mem_cons_self
    have rest := ih fun other member => printable other (List.mem_cons_of_mem _ member)
    have bytes : Utf8.encode ((line :: lines).flatMap fun line => line.toList ++ ['\n']) =
        Utf8.encode line.toList ++
          0x0A :: Utf8.encode (lines.flatMap fun line => line.toList ++ ['\n']) := by
      simp only [Utf8.encode, List.flatMap_cons, List.flatMap_append, List.append_assoc]
      rfl
    rw [bytes, ofBytes, rawLines_append first.plain_bytes, read, dropLineEnd_newline first.bare_bytes,
      Utf8.decode_encode]
    rw [ofBytes] at rest
    simp only [rest, String.ofList_toList]

theorem decode_dropLineEnd {content : List Char} (plain : '\n' ∉ content) :
    ∃ line, Utf8.decode (dropLineEnd (Utf8.encode content ++ [0x0A])) = .ok line ∧
      (content = line ∨ content = line ++ ['\r']) := by
  by_cases ended : content.getLast? = some '\r'
  · obtain ⟨start, rfl⟩ := List.getLast?_eq_some_iff.mp ended
    have bytes : Utf8.encode (start ++ ['\r']) = Utf8.encode start ++ [0x0D] := by
      rw [Utf8.encode, List.flatMap_append]
      rfl
    have dropped : dropLineEnd (Utf8.encode start ++ [0x0D] ++ [0x0A]) = Utf8.encode start := by
      simp [dropLineEnd]
    exact ⟨start, by rw [bytes, dropped, Utf8.decode_encode], .inr rfl⟩
  · have printable : Printable (String.ofList content) :=
      ⟨by rwa [String.toList_ofList], by rwa [String.toList_ofList]⟩
    have bare := printable.bare_bytes
    rw [String.toList_ofList] at bare
    exact ⟨content, by rw [dropLineEnd_newline bare, Utf8.decode_encode], .inl rfl⟩

/-- The lines of a text that ends in a line feed, if it is not empty, come before those of what
follows it. -/
theorem Lines.ofBytes_append {text : List Char} (ended : text = [] ∨ text.getLast? = some '\n') :
    ∃ lines, Lines.ofBytes (Utf8.encode text) = ⟨lines, none⟩ ∧ ∀ rest : List UInt8,
      Lines.ofBytes (Utf8.encode text ++ rest) =
        ⟨lines ++ (Lines.ofBytes rest).lines, (Lines.ofBytes rest).flaw⟩ := by
  induction long : text.length using Nat.strongRecOn generalizing text with
  | ind size ih =>
    rcases ended with rfl | last
    · exact ⟨[], rfl, fun rest => rfl⟩
    · obtain ⟨content, later, rfl, plain⟩ := List.eq_append_cons_of_mem (List.mem_of_getLast? last)
      have shorter : later.length < size := by
        rw [← long, List.length_append, List.length_cons]
        omega
      have ended : later = [] ∨ later.getLast? = some '\n' := by
        rcases List.eq_nil_or_concat later with rfl | ⟨start, final, rfl⟩
        · exact .inl rfl
        · refine .inr ?_
          rw [List.concat_eq_append, ← List.cons_append, ← List.append_assoc, List.getLast?_concat] at last
          rw [List.concat_eq_append, List.getLast?_concat, last]
      obtain ⟨lines, whole, split⟩ := ih _ shorter ended rfl
      obtain ⟨line, decoded, _⟩ := decode_dropLineEnd plain
      have plain_bytes := Utf8.newline_not_mem_encode plain
      refine ⟨String.ofList line :: lines, ?_, fun rest => ?_⟩
      · rw [Utf8.encode_newline, ofBytes, rawLines_append plain_bytes, read, decoded]
        rw [ofBytes] at whole
        simp only [whole]
      · rw [Utf8.encode_newline, List.append_assoc, List.cons_append, ofBytes,
          rawLines_append plain_bytes, read, decoded]
        have tail := split rest
        rw [ofBytes] at tail
        simp only [tail]
        rfl

/-! How far an input is read. -/

theorem rawLines_flatten (bytes : List UInt8) : (rawLines bytes).flatten = bytes := by
  induction bytes with
  | nil => rfl
  | cons b rest ih =>
    by_cases feed : b = 0x0A
    · rw [feed, rawLines_newline, List.flatten_cons, ih]
      rfl
    · simp only [rawLines, if_neg feed]
      cases found : rawLines rest with
      | nil =>
        rw [found] at ih
        rw [← ih]
        rfl
      | cons line lines =>
        rw [found] at ih
        rw [← ih]
        rfl

theorem rawLines_append_of_ended {bytes : List UInt8} (ended : bytes = [] ∨ bytes.getLast? = some 0x0A)
    (rest : List UInt8) : rawLines (bytes ++ rest) = rawLines bytes ++ rawLines rest := by
  induction bytes with
  | nil => rfl
  | cons b bytes ih =>
    have last := ended.resolve_left nofun
    by_cases feed : b = 0x0A
    · have later : bytes = [] ∨ bytes.getLast? = some 0x0A := by
        cases bytes with
        | nil => exact .inl rfl
        | cons next bytes => exact .inr (List.getLast?_cons_cons.symm.trans last)
      rw [feed, List.cons_append, rawLines_newline, rawLines_newline, ih later, List.cons_append]
    · obtain ⟨next, bytes, rfl⟩ : ∃ next others, bytes = next :: others := by
        cases bytes with
        | nil => exact absurd (Option.some.inj last) feed
        | cons next bytes => exact ⟨next, bytes, rfl⟩
      have whole := ih (.inr (List.getLast?_cons_cons.symm.trans last))
      have flat := rawLines_flatten (next :: bytes)
      cases found : rawLines (next :: bytes) with
      | nil =>
        rw [found] at flat
        cases flat
      | cons line lines =>
        rw [found] at whole
        rw [List.cons_append, rawLines, rawLines, whole, found, if_neg feed, if_neg feed]
        rfl

theorem dropLineEnd_append (raw : List UInt8) :
    ∃ ending, (ending = [] ∨ ending = [0x0A] ∨ ending = [0x0D, 0x0A]) ∧ dropLineEnd raw ++ ending = raw := by
  unfold dropLineEnd
  split
  next start same =>
    refine ⟨[0x0D, 0x0A], .inr (.inr rfl), ?_⟩
    rw [← List.reverse_inj, same]
    simp
  next start _ same =>
    refine ⟨[0x0A], .inr (.inl rfl), ?_⟩
    rw [← List.reverse_inj, same]
    simp
  next => exact ⟨[], .inl rfl, List.append_nil raw⟩

theorem isText_of_dropLineEnd {raw : List UInt8} (text : Utf8.IsText (dropLineEnd raw)) :
    Utf8.IsText raw := by
  obtain ⟨ending, shape, whole⟩ := dropLineEnd_append raw
  rw [← whole]
  apply text.append
  rcases shape with rfl | rfl | rfl
  · exact ⟨[], rfl⟩
  · exact ⟨['\n'], rfl⟩
  · exact ⟨['\r', '\n'], rfl⟩

theorem rawLines_of_plain {content : List UInt8} (plain : 0x0A ∉ content) (more : content ≠ []) :
    rawLines content = [content] := by
  induction content with
  | nil => exact absurd rfl more
  | cons b rest ih =>
    have feed : b ≠ 0x0A := fun same => plain (same ▸ List.mem_cons_self)
    simp only [rawLines, if_neg feed]
    cases rest with
    | nil => rfl
    | cons next rest => rw [ih (fun member => plain (List.mem_cons_of_mem _ member)) nofun]

theorem dropLineEnd_of_plain {content : List UInt8} (plain : 0x0A ∉ content) :
    dropLineEnd content = content := by
  obtain ⟨ending, rfl | rfl | rfl, whole⟩ := dropLineEnd_append content
  · rwa [List.append_nil] at whole
  all_goals
    rw [← whole] at plain
    simp at plain

theorem isText_dropLineEnd {text : List Char} :
    ∀ raw ∈ rawLines (Utf8.encode text), Utf8.IsText (dropLineEnd raw) := by
  induction long : text.length using Nat.strongRecOn generalizing text with
  | ind size ih =>
    intro raw member
    by_cases feed : '\n' ∈ text
    · obtain ⟨content, later, rfl, plain⟩ := List.eq_append_cons_of_mem feed
      rw [Utf8.encode_newline, rawLines_append (Utf8.newline_not_mem_encode plain)] at member
      rcases List.mem_cons.mp member with rfl | late
      · obtain ⟨line, decoded, _⟩ := decode_dropLineEnd plain
        exact Utf8.isText_iff.mpr ⟨line, decoded⟩
      · have shorter : later.length < size := by
          rw [← long, List.length_append, List.length_cons]
          omega
        exact ih _ shorter rfl raw late
    · have plain := Utf8.newline_not_mem_encode feed
      by_cases empty : Utf8.encode text = []
      · rw [empty] at member
        cases member
      · rw [rawLines_of_plain plain empty] at member
        rw [List.mem_singleton.mp member, dropLineEnd_of_plain plain]
        exact ⟨text, rfl⟩

namespace Lines

/-- Lines are read up to the first that is no text. -/
theorem read_split (raws : List (List UInt8)) :
    ∃ early rest, raws = early ++ rest ∧
      early.map dropLineEnd = (read raws).lines.map (fun line => Utf8.encode line.toList) ∧
      (rest = [] ∧ (read raws).flaw = none ∨
        ∃ raw later flaw, rest = raw :: later ∧ ¬ Utf8.IsText (dropLineEnd raw) ∧
          (read raws).flaw = some flaw) := by
  induction raws with
  | nil => exact ⟨[], [], rfl, rfl, .inl ⟨rfl, rfl⟩⟩
  | cons raw raws ih =>
    unfold read
    cases decoded : Utf8.decode (dropLineEnd raw) with
    | error flaw =>
      have noText : ¬ Utf8.IsText (dropLineEnd raw) := by
        intro text
        obtain ⟨text, same⟩ := Utf8.isText_iff.mp text
        cases decoded.symm.trans same
      exact ⟨[], raw :: raws, rfl, rfl, .inr ⟨raw, raws, flaw, rfl, noText, rfl⟩⟩
    | ok text =>
      obtain ⟨early, rest, split, lines, ends⟩ := ih
      refine ⟨raw :: early, rest, by rw [split]; rfl, ?_, ends⟩
      rw [List.map_cons, List.map_cons, lines, String.toList_ofList, Utf8.encode_of_decode decoded]

theorem flaw_eq_none_iff {input : List UInt8} : (ofBytes input).flaw = none ↔ Utf8.IsText input := by
  obtain ⟨early, rest, split, lines, ⟨rfl, none⟩ | ⟨raw, later, flaw, rfl, noText, some⟩⟩ :=
    read_split (rawLines input)
  · refine iff_of_true none ?_
    have whole : (rawLines input).flatten = input := rawLines_flatten input
    rw [split, List.append_nil] at whole
    rw [← whole]
    refine Utf8.isText_flatten fun raw member => isText_of_dropLineEnd ?_
    have known := List.mem_map_of_mem (f := dropLineEnd) member
    rw [lines] at known
    obtain ⟨line, _, same⟩ := List.mem_map.mp known
    exact ⟨_, same⟩
  · refine iff_of_false (by rw [ofBytes, some]; exact nofun) ?_
    rintro ⟨text, rfl⟩
    have inside : raw ∈ rawLines (Utf8.encode text) := by
      rw [split]
      exact List.mem_append_right _ List.mem_cons_self
    exact noText (isText_dropLineEnd raw inside)

-- A character that a line end cuts off is incomplete, though more bytes follow.
example : (ofBytes [0x61, 0xC3, 0x0A]).flaw = some (.incomplete 1) := by cbv

end Lines

end PageLoad.Text

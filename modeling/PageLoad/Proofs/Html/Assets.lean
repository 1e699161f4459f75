import PageLoad.Proofs.Html.Rules
import PageLoad.Proofs.Html.Tag
import PageLoad.Proofs.Text.Junk

/-!
The assets of a page that is made of images, scripts, links, embedded objects, anchors and frames are the
sources of all but the last two, in the order of their tags.
-/

namespace PageLoad.Html
open Text

structure IsFree (mark : Char) (text : String) : Prop where
  unmarked : mark ∉ text.toList
  plain : ∀ c ∈ text.toList, IsPlain c

instance (mark : Char) (text : String) : Decidable (IsFree mark text) :=
  decidable_of_iff (mark ∉ text.toList ∧ text.toList.all (fun c => decide (IsPlain c)) = true)
    ⟨fun ⟨unmarked, plain⟩ => ⟨unmarked, forall_mem_of_all plain⟩, fun free =>
      ⟨free.unmarked, List.all_eq_true.mpr fun c member => decide_eq_true (free.plain c member)⟩⟩

def startTag (name key value : String) : String := "<" ++ name ++ " " ++ key ++ "=\"" ++ value ++ "\">"

def endTag (name : String) : String := "</" ++ name ++ ">"

theorem startTag_toList (name key value : String) (rest : List Char) :
    (startTag name key value).toList ++ rest = '<' :: (tagText name.toList key.toList value.toList ++ rest) := by
  simp [startTag, tagText]

theorem endTag_toList (name : String) (rest : List Char) :
    (endTag name).toList ++ rest = '<' :: '/' :: (name.toList ++ '>' :: rest) := by
  simp [endTag]

/-! Reading a text piece by piece. -/

namespace Builder
variable {builder between next : Builder} {mode later last : LexMode} {text behind rest : List Char}

/-- Reading a text with a builder goes on to the rest of it with another builder. -/
def Leads (builder : Builder) (mode : LexMode) (text : List Char) (next : Builder) (later : LexMode)
    (rest : List Char) : Prop :=
  ∀ pieces, text.length ≤ pieces → ∃ fewer, rest.length ≤ fewer ∧
    builder.readAll pieces mode text = next.readAll fewer later rest

theorem Leads.refl (builder : Builder) (mode : LexMode) (text : List Char) :
    Leads builder mode text builder mode text :=
  fun pieces enough => ⟨pieces, enough, rfl⟩

theorem Leads.trans (first : Leads builder mode text between later behind)
    (second : Leads between later behind next last rest) : Leads builder mode text next last rest := by
  intro pieces enough
  obtain ⟨fewer, stillEnough, same⟩ := first pieces enough
  obtain ⟨fewest, lastEnough, again⟩ := second fewer stillEnough
  exact ⟨fewest, lastEnough, same.trans again⟩

theorem leads_piece {token : Token} {change : Option LexMode}
    (piece : readPiece mode (Rules.inForeignElement builder) text = (⟨[], [token], rest⟩, later))
    (read : builder.read token = (next, change)) (shorter : rest.length < text.length) :
    Leads builder mode text next (change.getD later) rest := by
  intro pieces enough
  obtain ⟨fewer, rfl⟩ := Nat.exists_eq_succ_of_ne_zero (show pieces ≠ 0 by omega)
  obtain ⟨c, text, rfl⟩ := List.exists_cons_of_length_pos (Nat.zero_lt_of_lt shorter)
  refine ⟨fewer, by omega, ?_⟩
  rw [readAll.eq_def]
  simp only [piece, take, List.foldl_cons, List.foldl_nil, read]

theorem leads_startTag {name key value : String} {change : Option LexMode} (isName : IsName name.toList)
    (isKey : IsName key.toList) (isValue : IsFree '"' value)
    (read : builder.read (.startTag ⟨name, [⟨key, value⟩], false⟩) = (next, change)) (rest : List Char) :
    Leads builder (.markup false) ((startTag name key value).toList ++ rest) next
      (change.getD (.markup false)) rest := by
  have piece := readPiece_opening isName isKey isValue.unmarked isValue.plain false
    (Rules.inForeignElement builder) rest
  simp only [String.ofList_toList] at piece
  rw [startTag_toList]
  refine leads_piece piece read ?_
  simp only [tagText, List.length_cons, List.length_append]
  omega

theorem leads_endTag {name : String} {change : Option LexMode}
    (piece : readPiece mode (Rules.inForeignElement builder) ('<' :: '/' :: (name.toList ++ '>' :: rest)) =
      (⟨[], [.endTag ⟨String.ofList name.toList, [], false⟩], rest⟩, .markup false))
    (read : builder.read (.endTag ⟨name, [], false⟩) = (next, change)) :
    Leads builder mode ((endTag name).toList ++ rest) next (change.getD (.markup false)) rest := by
  rw [String.ofList_toList] at piece
  rw [endTag_toList]
  refine leads_piece piece read ?_
  simp only [List.length_cons, List.length_append]
  omega

theorem leads_empty {kind : RawKind} {name key value : String} (isName : IsName name.toList)
    (isKey : IsName key.toList) (isValue : IsFree '"' value)
    (read : builder.read (.startTag ⟨name, [⟨key, value⟩], false⟩) = (between, some (.raw kind name.toList)))
    (inText : between.InText) (unmarked : dropByteOrderMark rest = rest) :
    ∃ next : Builder, next.Resting ∧ next.sources = between.sources ∧
      Leads builder (.markup false) ((startTag name key value).toList ++ ((endTag name).toList ++ rest)) next
        (.markup false) rest := by
  obtain ⟨next, readEnd, isNext, same⟩ := inText.read_end ⟨name, [], false⟩
  refine ⟨next, isNext, same, ?_⟩
  have opening := leads_startTag isName isKey isValue read ((endTag name).toList ++ rest)
  exact opening.trans (leads_endTag (readPiece_raw kind isName _ unmarked) readEnd)

theorem leads_text {tag : Tag} {content : List Char} (plain : ∀ c ∈ content, IsPlain c)
    (unmarked : '<' ∉ content) (inLink : builder.InLink tag) (rest : List Char) :
    ∃ next : Builder, next.InLink tag ∧ next.sources = builder.sources ∧
      Leads builder (.markup false) (content ++ '<' :: rest) next (.markup false) ('<' :: rest) := by
  -- A run ends at a line feed, so it may be any part of the text.
  induction long : content.length using Nat.strongRecOn generalizing content builder with
  | ind size ih =>
    by_cases empty : content = []
    · subst empty
      exact ⟨builder, inLink, rfl, Leads.refl _ _ _⟩
    · obtain ⟨run, later, rfl, some, piece⟩ :=
        readPiece_text empty plain unmarked (Rules.inForeignElement builder) rest
      have longer := List.length_pos_iff.mpr some
      obtain ⟨between, read, isBetween, same⟩ := inLink.read_text run
      have first := leads_piece piece read (by simp only [List.length_append]; omega)
      obtain ⟨next, isNext, again, others⟩ := ih later.length (by rw [← long, List.length_append]; omega)
        (fun c member => plain c (List.mem_append_right _ member))
        (fun marked => unmarked (List.mem_append_right _ marked)) isBetween rfl
      exact ⟨next, isNext, again.trans same, first.trans others⟩

end Builder

/-! Pages made of assets and other elements. -/

inductive Part where
  | image (source : String)
  | link (source : String)
  | embed (source : String)
  | script (source : String)
  | anchor (target text : String)
  | frame (source : String)

namespace Part

def markup : Part → String
  | image source => startTag "img" "src" source
  | link source => startTag "link" "src" source
  | embed source => startTag "embed" "src" source
  | script source => startTag "script" "src" source ++ endTag "script"
  | anchor target text => startTag "a" "href" target ++ text ++ endTag "a"
  | frame source => startTag "iframe" "src" source ++ endTag "iframe"

def source? : Part → Option String
  | image source | link source | embed source | script source => some source
  | anchor _ _ | frame _ => none

/-- Whether the value and the text of an element stand for themselves. -/
def IsPlain : Part → Prop
  | image source | link source | embed source | script source | frame source => IsFree '"' source
  | anchor target text => IsFree '"' target ∧ IsFree '<' text

instance : (part : Part) → Decidable part.IsPlain
  | image source | link source | embed source | script source | frame source =>
    inferInstanceAs (Decidable (IsFree '"' source))
  | anchor target text => inferInstanceAs (Decidable (IsFree '"' target ∧ IsFree '<' text))

theorem markup_opens (part : Part) : ∃ behind, part.markup.toList = '<' :: behind := by
  have opens (name key value : String) (rest : List Char) :
      ∃ behind, (startTag name key value).toList ++ rest = '<' :: behind := ⟨_, startTag_toList _ _ _ rest⟩
  cases part with
  | image | link | embed => exact List.append_nil (startTag _ _ _).toList ▸ opens _ _ _ []
  | script | frame =>
    rw [markup, String.toList_append]
    exact opens _ _ _ _
  | anchor =>
    rw [markup, String.toList_append, String.toList_append, List.append_assoc]
    exact opens _ _ _ _

theorem read {part : Part} (plain : part.IsPlain) {builder : Builder} (resting : builder.Resting)
    {rest : List Char} (unmarked : dropByteOrderMark rest = rest) :
    ∃ next : Builder, next.Resting ∧ next.sources = builder.sources ++ part.source?.toList ∧
      builder.Leads (.markup false) (part.markup.toList ++ rest) next (.markup false) rest := by
  cases part with
  | image source =>
    obtain ⟨next, read, isNext, sources⟩ := resting.read_void (.inl rfl) [⟨"src", source⟩]
    exact ⟨next, isNext, sources, Builder.leads_startTag (by decide) (by decide) plain read rest⟩
  | link source =>
    obtain ⟨next, read, isNext, sources⟩ := resting.read_link [⟨"src", source⟩]
    exact ⟨next, isNext, sources, Builder.leads_startTag (by decide) (by decide) plain read rest⟩
  | embed source =>
    obtain ⟨next, read, isNext, sources⟩ := resting.read_void (.inr rfl) [⟨"src", source⟩]
    exact ⟨next, isNext, sources, Builder.leads_startTag (by decide) (by decide) plain read rest⟩
  | script source =>
    obtain ⟨between, read, inText, sources⟩ := resting.read_script [⟨"src", source⟩]
    obtain ⟨next, isNext, same, leads⟩ :=
      Builder.leads_empty (by decide) (by decide) plain read inText unmarked
    refine ⟨next, isNext, same.trans sources, ?_⟩
    rwa [markup, String.toList_append, List.append_assoc]
  | anchor target text =>
    obtain ⟨isTarget, isText⟩ := plain
    obtain ⟨between, read, inLink, sources⟩ := resting.read_anchor [⟨"href", target⟩]
    obtain ⟨last, isLast, still, content⟩ :=
      Builder.leads_text isText.plain isText.unmarked inLink ('/' :: ("a".toList ++ '>' :: rest))
    obtain ⟨next, readEnd, isNext, same⟩ := isLast.read_end
    refine ⟨next, isNext, (same.trans still).trans sources, ?_⟩
    have opening := Builder.leads_startTag (by decide) (by decide) isTarget read
      (text.toList ++ ((endTag "a").toList ++ rest))
    have closing := Builder.leads_endTag (readPiece_closing (by decide) false _ rest) readEnd
    rw [← endTag_toList] at content
    rw [markup, String.toList_append, String.toList_append, List.append_assoc, List.append_assoc]
    exact (opening.trans content).trans closing
  | frame source =>
    obtain ⟨between, read, inText, sources⟩ := resting.read_frame [⟨"src", source⟩]
    obtain ⟨next, isNext, same, leads⟩ :=
      Builder.leads_empty (by decide) (by decide) plain read inText unmarked
    refine ⟨next, isNext, same.trans sources, ?_⟩
    rwa [markup, String.toList_append, List.append_assoc]

end Part

def markup (parts : List Part) : String := String.join (parts.map Part.markup)

theorem markup_toList (parts : List Part) : (markup parts).toList = parts.flatMap (·.markup.toList) := by
  rw [markup, String.toList_join, List.flatMap_map]

theorem dropByteOrderMark_markup (parts : List Part) :
    dropByteOrderMark (markup parts).toList = (markup parts).toList := by
  rw [markup_toList]
  cases parts with
  | nil => rfl
  | cons part parts =>
    obtain ⟨behind, opens⟩ := part.markup_opens
    rw [List.flatMap_cons, opens]
    rfl

theorem reads_markup {parts : List Part} (plain : ∀ part ∈ parts, part.IsPlain) {builder : Builder}
    (resting : builder.Resting) :
    ∃ next : Builder, next.Resting ∧ next.sources = builder.sources ++ parts.filterMap Part.source? ∧
      builder.Leads (.markup false) (markup parts).toList next (.markup false) [] := by
  -- Nothing is open between two elements, wherever in the document they stand.
  induction parts generalizing builder with
  | nil => exact ⟨builder, resting, (List.append_nil _).symm, Builder.Leads.refl _ _ _⟩
  | cons part parts ih =>
    obtain ⟨isPlain, plain⟩ := List.forall_mem_cons.mp plain
    obtain ⟨between, isBetween, named, first⟩ := Part.read isPlain resting (dropByteOrderMark_markup parts)
    obtain ⟨next, isNext, others, rest⟩ := ih plain isBetween
    have text : (markup (part :: parts)).toList = part.markup.toList ++ (markup parts).toList := by
      rw [markup_toList, markup_toList, List.flatMap_cons]
    refine ⟨next, isNext, ?_, text ▸ first.trans rest⟩
    rw [others, named, List.append_assoc, List.filterMap_cons]
    cases part.source? <;> rfl

theorem resting_start : Builder.start.Resting := .inl ⟨rfl, nofun, rfl, rfl⟩

/-- The sources of a page are those of its elements that are loaded with it. -/
theorem sources_markup {parts : List Part} (plain : ∀ part ∈ parts, part.IsPlain) :
    (Document.parse (markup parts).toList).sources = parts.filterMap Part.source? := by
  obtain ⟨next, isNext, sources, leads⟩ := reads_markup plain resting_start
  obtain ⟨fewer, -, read⟩ := leads (markup parts).toList.length (Nat.le_refl _)
  have ended : next.readAll fewer (.markup false) [] = (next.read .endOfFile).1 := by
    cases fewer <;> rfl
  have built : (Document.parse (markup parts).toList).sources =
      (next.readAll fewer (.markup false) []).sources := by
    rw [← read, Document.parse, dropByteOrderMark_markup]
    rfl
  rw [built, ended, isNext.read_endOfFile, sources]
  rfl

def sourceMark : String := "unresolvable src "

def isAboutSource (message : String) : Bool := sourceMark.toList.isPrefixOf message.toList

theorem isAboutSource_append (rest : String) : isAboutSource (sourceMark ++ rest) = true := by
  rw [isAboutSource, String.toList_append, List.isPrefixOf_iff_prefix]
  exact List.prefix_append _ _

theorem isAboutSource_other {c : Char} (other : ('u' == c) = false) (rest : List Char) :
    isAboutSource (String.ofList (c :: rest)) = false := by
  obtain ⟨behind, opens⟩ : ∃ behind, sourceMark.toList = 'u' :: behind := ⟨_, rfl⟩
  rw [isAboutSource, String.toList_ofList, opens, List.isPrefixOf_cons_cons, other, Bool.false_and]

theorem isAboutSource_markup (fault : Fault) : isAboutSource fault.message = false := by
  cases fault <;> exact isAboutSource_other rfl _

theorem message_unresolvable (source : String) (reason : Url.Error) :
    (PageFault.unresolvable source reason).message = sourceMark ++ Text.quote source ++ ": " ++ reason.message :=
  rfl

deriving instance DecidableEq for PageFault

def failures (base : Url) (sources : List String) : List PageFault :=
  sources.filterMap fun source =>
    match base.join source with
    | .ok _ => none
    | .error reason => some (.unresolvable source reason)

theorem isAboutSource_failures (base : Url) (sources : List String) :
    ((failures base sources).map (·.message)).filter isAboutSource = (failures base sources).map (·.message) := by
  rw [List.filter_eq_self]
  intro message listed
  obtain ⟨fault, written, rfl⟩ := List.mem_map.mp listed
  obtain ⟨source, -, failed⟩ := List.mem_filterMap.mp written
  cases joined : base.join source with
  | ok url => simp only [joined, reduceCtorEq] at failed
  | error reason =>
    simp only [joined, Option.some.injEq] at failed
    rw [← failed, message_unresolvable, String.append_assoc, String.append_assoc]
    exact isAboutSource_append _

/-- The assets of a page that is made of elements with plain values are those that the sources of the loaded
ones name, in order and with repeats. There is a message for each source that names none, in order. -/
theorem ofPage_markup (base : Url) (parts : List Part) (plain : ∀ part ∈ parts, part.IsPlain) :
    let assets := Assets.ofPage base (markup parts).toUTF8.toList
    let sources := parts.filterMap Part.source?
    assets.urls = sources.filterMap (fun source => (base.join source).toOption) ∧
      (assets.faults.map (·.message)).filter isAboutSource = (failures base sources).map (·.message) := by
  intro assets sources
  have body : Utf8.dropJunk (markup parts).toUTF8.toList = (markup parts).toList := by
    rw [Utf8.toUTF8_toList, Utf8.dropJunk_encode]
  have resolved : assets = { Assets.resolve base sources with
      faults := (Document.parse (markup parts).toList).faults.map .markup ++ failures base sources } := by
    simp only [assets, Assets.ofPage, body, sources_markup plain, sources]
    rfl
  have others : (((Document.parse (markup parts).toList).faults.map PageFault.markup).map (·.message)).filter
      isAboutSource = [] := by
    rw [List.filter_eq_nil_iff]
    intro message listed
    obtain ⟨fault, written, rfl⟩ := List.mem_map.mp listed
    obtain ⟨flaw, -, rfl⟩ := List.mem_map.mp written
    exact Bool.eq_false_iff.mp (isAboutSource_markup flaw)
  rw [resolved]
  refine ⟨rfl, ?_⟩
  rw [List.map_append, List.filter_append, others, List.nil_append]
  exact isAboutSource_failures base sources

def mixedParts : List Part :=
  [.link "a.css", .script "\n<b>", .embed "http://[", .anchor "x.png" "c >\n\"d\"", .frame "f.html", .image "",
    .link "a.css", .script "//[::1]:x"]

theorem ofPage_markup_mixed :
    let base : Url := ⟨"http", some ⟨"", "", .name "a.com", none⟩, .segments ["p", "q"], none, none⟩
    let assets := Assets.ofPage base (markup mixedParts).toUTF8.toList
    (∀ part ∈ mixedParts, part.IsPlain) ∧
      assets.urls.map Url.text =
        ["http://a.com/p/a.css", "http://a.com/p/%3Cb%3E", "http://a.com/p/q", "http://a.com/p/a.css"] ∧
      (assets.faults.map (·.message)).filter isAboutSource =
        [PageFault.unresolvable "http://[" .invalidIpv6, .unresolvable "//[::1]:x" .invalidPort].map (·.message) := by
  intro base assets
  have plain : ∀ part ∈ mixedParts, part.IsPlain := by decide +kernel
  have failed : failures base (mixedParts.filterMap Part.source?) =
      [.unresolvable "http://[" .invalidIpv6, .unresolvable "//[::1]:x" .invalidPort] := by decide +kernel
  obtain ⟨urls, messages⟩ := ofPage_markup base mixedParts plain
  refine ⟨plain, ?_, ?_⟩
  · rw [show assets.urls = _ from urls]
    decide +kernel
  · rw [← failed]
    exact messages

end PageLoad.Html

import PageLoad.Html.Assets

/-!
What single tags make of a document that nothing is open in but its head or its body.
-/

namespace PageLoad.Html
open Rules

def Tag.element (tag : Tag) : Element := ⟨.html, tag.name, tag.attributes⟩

namespace Builder
variable {builder : Builder} {mode : Mode} {token : Token}

def sources (builder : Builder) : List String := builder.elements.toList.filterMap Element.source?

/-- A builder in a mode, with elements of HTML only, none of which has to be opened again. -/
structure Rests (builder : Builder) (mode : Mode) : Prop where
  inMode : builder.mode = mode
  html : ∀ element ∈ builder.stack, element.space = .html
  formatting : builder.formatting = []
  templates : builder.templateModes = []

def Resting (builder : Builder) : Prop :=
  builder.Rests .initial ∨ builder.Rests .inHead ∨ builder.Rests .inBody

theorem sources_insertIn (builder : Builder) (tag : Tag) (opened : Bool) :
    (builder.insertIn .html tag opened).sources = builder.sources ++ tag.element.source?.toList := by
  cases opened <;> simp [sources, insertIn, push, Tag.element, List.filterMap_append, List.filterMap_cons] <;>
    cases Element.source? _ <;> rfl

theorem isForeign_of_html (html : ∀ element ∈ builder.stack, element.space = .html) (token : Token) :
    isForeign builder token = false := by
  unfold isForeign
  cases same : builder.stack with
  | nil => cases token <;> rfl
  | cons current below =>
    have space := html current (same ▸ List.mem_cons_self)
    cases token <;> simp only [space, if_true]

theorem settle_of_html (html : ∀ element ∈ builder.stack, element.space = .html) (steps : Nat) (token : Token) :
    builder.settle (steps + 1) token =
      match inCurrentMode builder token with
      | (next, .done) =>
        (if token.closesItself then next.report .unacknowledgedSelfClosing else next, none)
      | (next, .acknowledged) => (next, none)
      | (next, .again mode token) => (next.inMode mode).settle steps token
      | (next, .raw kind name) => (next, some (.raw kind name))
      | (next, .plain) => (next, some (.plain false)) := by
  rw [Builder.settle, isForeign_of_html html token]
  rfl

namespace Rests

theorem insert (rests : builder.Rests mode) (tag : Tag) : (builder.insert tag).Rests mode := by
  refine ⟨rests.inMode, ?_, rests.formatting, rests.templates⟩
  exact List.forall_mem_cons.mpr ⟨rfl, rests.html⟩

theorem insertVoid (rests : builder.Rests mode) (tag : Tag) : (builder.insertVoid tag).Rests mode :=
  ⟨rests.inMode, rests.html, rests.formatting, rests.templates⟩

theorem pop (rests : builder.Rests mode) : builder.pop.Rests mode :=
  ⟨rests.inMode, fun element below => rests.html element (List.mem_of_mem_drop below), rests.formatting,
    rests.templates⟩

theorem enter (rests : builder.Rests mode) (other : Mode) : (builder.inMode other).Rests other :=
  ⟨rfl, rests.html, rests.formatting, rests.templates⟩

end Rests

/-- A token that is read by the rules of some more modes before it is read in a later builder. -/
structure Passes (token : Token) (count : Nat) (builder next : Builder) : Prop where
  sources : next.sources = builder.sources
  settle : ∀ steps, builder.settle (steps + count) token = next.settle steps token

theorem Passes.trans {between next : Builder} {early late : Nat} (first : Passes token early builder between)
    (second : Passes token late between next) : Passes token (late + early) builder next :=
  ⟨second.sources.trans first.sources, fun steps => by
    rw [← Nat.add_assoc, first.settle, second.settle]⟩

theorem Rests.passes {next : Builder} {other : Mode} (rests : builder.Rests mode)
    (rule : inCurrentMode builder token = again next other token) (sources : next.sources = builder.sources) :
    Passes token 1 builder (next.inMode other) := by
  refine ⟨sources, fun steps => ?_⟩
  rw [settle_of_html rests.html, rule]
  rfl

inductive OtherThan (names : List String) : Token → Prop where
  | startTag {tag : Tag} (other : tag.name ∉ names) : OtherThan names (.startTag tag)
  | endOfFile : OtherThan names .endOfFile

def outerNames : List String := "html" :: "noscript" :: "body" :: "frameset" :: "head" :: metadataNames

theorem otherThan_of_not_mem {names : List String} {name : String} (other : name ∉ names)
    (attributes : List Attribute) : OtherThan names (.startTag ⟨name, attributes, false⟩) :=
  .startTag other

theorem OtherThan.mono {names fewer : List String} (other : OtherThan names token) (subset : fewer ⊆ names) :
    OtherThan fewer token := by
  cases other with
  | startTag other => exact .startTag fun named => other (subset named)
  | endOfFile => exact .endOfFile

theorem initial_other (builder : Builder) (other : OtherThan [] token) :
    initial builder token = again { builder.unexpected with quirks := true } .beforeHtml token := by
  cases other <;> rfl

theorem beforeHtml_other (builder : Builder) (other : OtherThan ["html"] token) :
    beforeHtml builder token = again (builder.insertRoot []) .beforeHead token := by
  cases other with
  | endOfFile => rfl
  | startTag other => simp only [beforeHtml, mt List.mem_singleton.mpr other, if_false]

theorem beforeHead_other (builder : Builder) (other : OtherThan ["html", "head"] token) :
    beforeHead builder token = again (openHead builder ⟨"head", [], false⟩) .inHead token := by
  cases other with
  | endOfFile => rfl
  | startTag other =>
    simp only [List.mem_cons, List.not_mem_nil, or_false, not_or] at other
    simp only [beforeHead, other, if_false]

theorem inHead_other (builder : Builder)
    (other : OtherThan ("html" :: "noscript" :: "head" :: metadataNames) token) :
    inHead builder token = again builder.pop .afterHead token := by
  cases other with
  | endOfFile => rfl
  | startTag other =>
    simp only [List.mem_cons, not_or] at other
    obtain ⟨html, noscript, head, metadata⟩ := other
    have metadata := mt List.contains_iff_mem.mp metadata
    simp only [inHead, html, noscript, head, metadata, decide_false, Bool.false_eq_true, Bool.or_self, if_false]

theorem afterHead_other (builder : Builder)
    (other : OtherThan ("html" :: "body" :: "frameset" :: "head" :: metadataNames) token) :
    afterHead builder token = again (builder.insertImplied "body") .inBody token := by
  cases other with
  | endOfFile => rfl
  | startTag other =>
    simp only [List.mem_cons, not_or] at other
    obtain ⟨html, body, frameset, head, metadata⟩ := other
    have metadata := mt List.contains_iff_mem.mp metadata
    simp only [afterHead, html, body, frameset, head, metadata, Bool.false_eq_true, if_false]

theorem Rests.opensHead (rests : builder.Rests .initial) (other : OtherThan ["html", "head"] token) :
    ∃ next, next.Rests .inHead ∧ Passes token 3 builder next := by
  -- Each mode implies what is missing and hands the token on to the next.
  let second := ({ builder.unexpected with quirks := true } : Builder).inMode .beforeHtml
  let third := (second.insertRoot []).inMode .beforeHead
  let fourth := (openHead third ⟨"head", [], false⟩).inMode .inHead
  have isSecond : second.Rests .beforeHtml := ⟨rfl, rests.html, rests.formatting, rests.templates⟩
  have isThird : third.Rests .beforeHead := (isSecond.insert _).enter _
  have opened := (isThird.insert ⟨"head", [], false⟩).enter .inHead
  have isFourth : fourth.Rests .inHead := ⟨rfl, opened.html, opened.formatting, opened.templates⟩
  refine ⟨fourth, isFourth, ?_⟩
  have toSecond : Passes token 1 builder second := rests.passes (by
    rw [inCurrentMode, rests.inMode]
    exact initial_other builder (other.mono (List.nil_subset _))) rfl
  have toThird : Passes token 1 second third := isSecond.passes (by
    rw [inCurrentMode, isSecond.inMode]
    exact beforeHtml_other second (other.mono (by decide)))
    ((sources_insertIn second _ true).trans (List.append_nil _))
  have toFourth : Passes token 1 third fourth := isThird.passes (by
    rw [inCurrentMode, isThird.inMode]
    exact beforeHead_other third other)
    ((sources_insertIn third _ true).trans (List.append_nil _))
  exact (toSecond.trans toThird).trans toFourth

theorem Rests.opensBody (rests : builder.Rests .inHead) (other : OtherThan outerNames token) :
    ∃ next, next.Rests .inBody ∧ Passes token 2 builder next := by
  let second := builder.pop.inMode .afterHead
  let third := (second.insertImplied "body").inMode .inBody
  have isSecond : second.Rests .afterHead := rests.pop.enter _
  have isThird : third.Rests .inBody := (isSecond.insert _).enter _
  refine ⟨third, isThird, ?_⟩
  have toSecond : Passes token 1 builder second := rests.passes (by
    rw [inCurrentMode, rests.inMode]
    exact inHead_other builder (other.mono (by decide))) rfl
  have toThird : Passes token 1 second third := isSecond.passes (by
    rw [inCurrentMode, isSecond.inMode]
    exact afterHead_other second (other.mono (by decide)))
    ((sources_insertIn second _ true).trans (List.append_nil _))
  exact toSecond.trans toThird

theorem Passes.read {next : Builder} {count : Nat} {names : List String} (other : OtherThan names token)
    (passes : Passes token count { builder with skipNewline := false } next) (few : count < 32) :
    next.sources = builder.sources ∧ ∃ steps, builder.read token = next.settle (steps + 1) token := by
  let cleared : Builder := { builder with skipNewline := false }
  have settles : builder.read token = cleared.settle cleared.patience token := by
    cases other <;> rfl
  have enough : cleared.patience - count - 1 + 1 + count = cleared.patience := by
    have least : 32 ≤ cleared.patience := Nat.le_add_left _ _
    omega
  refine ⟨passes.sources, cleared.patience - count - 1, ?_⟩
  rw [settles, ← passes.settle, enough]

theorem Passes.refl (builder : Builder) (token : Token) : Passes token 0 builder builder := ⟨rfl, fun _ => rfl⟩

theorem Rests.cleared (rests : builder.Rests mode) : Rests { builder with skipNewline := false } mode :=
  ⟨rests.inMode, rests.html, rests.formatting, rests.templates⟩

namespace Resting

theorem reachesHead (resting : builder.Resting) (other : OtherThan ["html", "head"] token) :
    ∃ (next : Builder) (mode : Mode), (mode = .inHead ∨ mode = .inBody) ∧ next.Rests mode ∧
      next.sources = builder.sources ∧ ∃ steps, builder.read token = next.settle (steps + 1) token := by
  rcases resting with fresh | head | body
  · obtain ⟨next, rests, passes⟩ := fresh.cleared.opensHead other
    exact ⟨next, .inHead, .inl rfl, rests, passes.read other (by decide)⟩
  · exact ⟨_, .inHead, .inl rfl, head.cleared, (Passes.refl _ token).read other (by decide)⟩
  · exact ⟨_, .inBody, .inr rfl, body.cleared, (Passes.refl _ token).read other (by decide)⟩

theorem reachesBody (resting : builder.Resting) (other : OtherThan outerNames token) :
    ∃ next : Builder, next.Rests .inBody ∧ next.sources = builder.sources ∧
      ∃ steps, builder.read token = next.settle (steps + 1) token := by
  have early : OtherThan ["html", "head"] token := other.mono (by decide)
  rcases resting with fresh | head | body
  · obtain ⟨between, rests, passes⟩ := fresh.cleared.opensHead early
    obtain ⟨next, isLast, later⟩ := rests.opensBody other
    exact ⟨next, isLast, (passes.trans later).read other (by decide)⟩
  · obtain ⟨next, isLast, later⟩ := head.cleared.opensBody other
    exact ⟨next, isLast, later.read other (by decide)⟩
  · exact ⟨_, body.cleared, (Passes.refl _ token).read other (by decide)⟩

end Resting

/-! Elements without content. -/

theorem reconstruct_of_nil (nothing : builder.formatting = []) : builder.reconstruct = builder := by
  rw [reconstruct, nothing]
  rfl

theorem Resting.read_void (resting : builder.Resting) {name : String} (named : name = "img" ∨ name = "embed")
    (attributes : List Attribute) :
    ∃ next : Builder, builder.read (.startTag ⟨name, attributes, false⟩) = (next, none) ∧ next.Resting ∧
      next.sources = builder.sources ++ (Tag.element ⟨name, attributes, false⟩).source?.toList := by
  generalize isTag : (⟨name, attributes, false⟩ : Tag) = tag
  have other : OtherThan outerNames (.startTag tag) := by
    rcases named with rfl | rfl <;> rw [← isTag] <;> exact otherThan_of_not_mem (by decide) attributes
  obtain ⟨body, rests, sources, steps, read⟩ := resting.reachesBody other
  have void : bodyStart body tag = startVoid body tag := by
    rcases named with rfl | rfl <;> rw [← isTag] <;> rfl
  have rule : inCurrentMode body (.startTag tag) = acknowledged (body.insertVoid tag).refuseFrameset := by
    rw [inCurrentMode, rests.inMode]
    simp only [inBody, void, startVoid, reconstruct_of_nil rests.formatting]
  refine ⟨(body.insertVoid tag).refuseFrameset, ?_, ?_, ?_⟩
  · rw [read, settle_of_html rests.html, rule]
    rfl
  · have inserted := rests.insertVoid tag
    exact .inr (.inr ⟨inserted.inMode, inserted.html, inserted.formatting, inserted.templates⟩)
  · exact (sources_insertIn body tag false).trans (by rw [sources])

theorem Resting.reads_metadata (resting : builder.Resting) {name : String}
    (named : name = "link" ∨ name = "script") (attributes : List Attribute) :
    ∃ (next : Builder) (mode : Mode), (mode = .inHead ∨ mode = .inBody) ∧ next.Rests mode ∧
      next.sources = builder.sources ∧ ∃ steps,
        builder.read (.startTag ⟨name, attributes, false⟩) =
          next.settle (steps + 1) (.startTag ⟨name, attributes, false⟩) ∧
        inCurrentMode next (.startTag ⟨name, attributes, false⟩) =
          startMetadata next ⟨name, attributes, false⟩ := by
  have other : OtherThan ["html", "head"] (.startTag ⟨name, attributes, false⟩) := by
    rcases named with rfl | rfl <;> exact otherThan_of_not_mem (by decide) attributes
  obtain ⟨next, mode, place, rests, sources, steps, read⟩ := resting.reachesHead other
  refine ⟨next, mode, place, rests, sources, steps, read, ?_⟩
  rw [inCurrentMode, rests.inMode]
  rcases place with rfl | rfl <;> rcases named with rfl | rfl <;> rfl

theorem Rests.resting (rests : builder.Rests mode) (place : mode = .inHead ∨ mode = .inBody) :
    builder.Resting := by
  rcases place with rfl | rfl
  · exact .inr (.inl rests)
  · exact .inr (.inr rests)

theorem Resting.read_link (resting : builder.Resting) (attributes : List Attribute) :
    ∃ next : Builder, builder.read (.startTag ⟨"link", attributes, false⟩) = (next, none) ∧ next.Resting ∧
      next.sources = builder.sources ++ (Tag.element ⟨"link", attributes, false⟩).source?.toList := by
  obtain ⟨next, mode, place, rests, sources, steps, read, rule⟩ := resting.reads_metadata (.inl rfl) attributes
  refine ⟨next.insertVoid ⟨"link", attributes, false⟩, ?_, (rests.insertVoid _).resting place, ?_⟩
  · rw [read, settle_of_html rests.html, rule]
    rfl
  · exact (sources_insertIn next _ false).trans (by rw [sources])

/-! Elements whose content is text. -/

structure InText (builder : Builder) : Prop where
  rests : builder.Rests .text
  back : builder.returnMode = .inHead ∨ builder.returnMode = .inBody

theorem Rests.insertRaw (rests : builder.Rests mode) (place : mode = .inHead ∨ mode = .inBody) (tag : Tag)
    (kind : RawKind) : InText (builder.insertRaw tag kind).1 := by
  have inserted := rests.insert tag
  refine ⟨⟨rfl, inserted.html, inserted.formatting, inserted.templates⟩, ?_⟩
  rwa [← rests.inMode] at place

theorem Resting.read_script (resting : builder.Resting) (attributes : List Attribute) :
    ∃ next : Builder, builder.read (.startTag ⟨"script", attributes, false⟩) =
        (next, some (.raw .script "script".toList)) ∧ next.InText ∧
      next.sources = builder.sources ++ (Tag.element ⟨"script", attributes, false⟩).source?.toList := by
  obtain ⟨next, mode, place, rests, sources, steps, read, rule⟩ := resting.reads_metadata (.inr rfl) attributes
  refine ⟨(next.insertRaw ⟨"script", attributes, false⟩ .script).1, ?_, rests.insertRaw place _ _, ?_⟩
  · rw [read, settle_of_html rests.html, rule]
    rfl
  · exact (sources_insertIn next _ true).trans (by rw [sources])

theorem Resting.read_frame (resting : builder.Resting) (attributes : List Attribute) :
    ∃ next : Builder, builder.read (.startTag ⟨"iframe", attributes, false⟩) =
        (next, some (.raw .verbatim "iframe".toList)) ∧ next.InText ∧
      next.sources = builder.sources ++ (Tag.element ⟨"iframe", attributes, false⟩).source?.toList := by
  have other : OtherThan outerNames (.startTag ⟨"iframe", attributes, false⟩) :=
    otherThan_of_not_mem (by decide) attributes
  obtain ⟨body, rests, sources, steps, read⟩ := resting.reachesBody other
  have refused : body.refuseFrameset.Rests .inBody :=
    ⟨rests.inMode, rests.html, rests.formatting, rests.templates⟩
  have rule : inCurrentMode body (.startTag ⟨"iframe", attributes, false⟩) =
      body.refuseFrameset.insertRaw ⟨"iframe", attributes, false⟩ .verbatim := by
    rw [inCurrentMode, rests.inMode]
    rfl
  refine ⟨(body.refuseFrameset.insertRaw ⟨"iframe", attributes, false⟩ .verbatim).1, ?_,
    refused.insertRaw (.inr rfl) _ _, ?_⟩
  · rw [read, settle_of_html rests.html, rule]
    rfl
  · exact (sources_insertIn body.refuseFrameset _ true).trans (by rw [← sources]; rfl)

theorem InText.read_end (inText : builder.InText) (tag : Tag) :
    ∃ next : Builder, builder.read (.endTag tag) = (next, none) ∧ next.Resting ∧
      next.sources = builder.sources := by
  let cleared : Builder := { builder with skipNewline := false }
  have rests : cleared.Rests .text := inText.rests.cleared
  have rule : inCurrentMode cleared (.endTag tag) = done (cleared.pop.inMode cleared.returnMode) := by
    rw [inCurrentMode, rests.inMode]
    rfl
  refine ⟨cleared.pop.inMode cleared.returnMode, ?_, (rests.pop.enter _).resting inText.back, rfl⟩
  have settles : builder.read (.endTag tag) = cleared.settle (cleared.patience - 1 + 1) (.endTag tag) := rfl
  rw [settles, settle_of_html rests.html, rule]
  rfl

/-! Links, which formatting elements are. -/

structure InLink (builder : Builder) (tag : Tag) : Prop where
  inMode : builder.mode = .inBody
  named : tag.name = "a"
  opened : ∃ id below, builder.stack = ⟨id, .html, tag.name⟩ :: below ∧
    (∀ element ∈ below, element.space = .html) ∧ builder.formatting = [.element id tag]
  templates : builder.templateModes = []

theorem InLink.html {tag : Tag} (inLink : builder.InLink tag) :
    ∀ element ∈ builder.stack, element.space = .html := by
  obtain ⟨id, below, stack, html, -⟩ := inLink.opened
  rw [stack]
  exact List.forall_mem_cons.mpr ⟨rfl, html⟩

theorem InLink.cleared {tag : Tag} (inLink : builder.InLink tag) :
    InLink { builder with skipNewline := false } tag :=
  ⟨inLink.inMode, inLink.named, inLink.opened, inLink.templates⟩

theorem Resting.read_anchor (resting : builder.Resting) (attributes : List Attribute) :
    ∃ next : Builder, builder.read (.startTag ⟨"a", attributes, false⟩) = (next, none) ∧
      next.InLink ⟨"a", attributes, false⟩ ∧
      next.sources = builder.sources ++ (Tag.element ⟨"a", attributes, false⟩).source?.toList := by
  generalize isTag : (⟨"a", attributes, false⟩ : Tag) = tag
  have other : OtherThan outerNames (.startTag tag) := isTag ▸ otherThan_of_not_mem (by decide) attributes
  obtain ⟨body, rests, sources, steps, read⟩ := resting.reachesBody other
  have formatting : bodyStart body tag = done ((closeOuterLink body).reconstruct.insertFormatting tag) := by
    rw [← isTag]
    rfl
  have outer : closeOuterLink body = body := by
    rw [closeOuterLink, rests.formatting]
    rfl
  have inserted : body.insertFormatting tag =
      { body.insert tag with formatting := [.element body.elements.size tag] } := by
    rw [insertFormatting, rests.formatting]
    simp only [sinceMarker, List.filter_nil, List.reverse_nil]
    rw [insert, insertIn]
    simp [push, rests.formatting]
  have rule : inCurrentMode body (.startTag tag) =
      done { body.insert tag with formatting := [.element body.elements.size tag] } := by
    rw [inCurrentMode, rests.inMode, ← inserted]
    simp only [inBody, formatting, outer, reconstruct_of_nil rests.formatting]
  refine ⟨{ body.insert tag with formatting := [.element body.elements.size tag] }, ?_, ?_, ?_⟩
  · rw [read, settle_of_html rests.html, rule, ← isTag]
    rfl
  · exact ⟨rests.inMode, isTag ▸ rfl, ⟨body.elements.size, body.stack, rfl, rests.html, rfl⟩, rests.templates⟩
  · exact (sources_insertIn body tag true).trans (by rw [sources])

theorem InLink.reconstruct {tag : Tag} (inLink : builder.InLink tag) : builder.reconstruct = builder := by
  obtain ⟨id, below, stack, -, formatting⟩ := inLink.opened
  have isOpen : builder.isOpen id = true := by
    simp only [Builder.isOpen, stack, List.any_cons, decide_true, Bool.true_or]
  simp only [Builder.reconstruct, formatting, sinceMarker, List.takeWhile_cons, isOpen, Bool.not_true,
    Bool.false_eq_true, if_false]
  rfl

theorem InLink.read_text {tag : Tag} (inLink : builder.InLink tag) (text : List Char) :
    ∃ next : Builder, builder.read (.text text) = (next, none) ∧ next.InLink tag ∧
      next.sources = builder.sources := by
  let cleared : Builder := { builder with skipNewline := false }
  have isCleared : cleared.InLink tag := inLink.cleared
  have kept (text : List Char) : ∃ next : Builder, cleared.settleText text = next ∧ next.InLink tag ∧
      next.sources = builder.sources := by
    cases text with
    | nil => exact ⟨cleared, by rw [settleText], isCleared, rfl⟩
    | cons c rest =>
      have whole : (cleared.mode.splitsText && !isForeign cleared (.text (c :: rest))) = false := by
        rw [isCleared.inMode]
        rfl
      have rule : inCurrentMode cleared (.text (c :: rest)) = done (bodyText cleared (c :: rest)) := by
        rw [inCurrentMode, isCleared.inMode]
        rfl
      have settles : (cleared.settle cleared.patience (.text (c :: rest))).1 = bodyText cleared (c :: rest) := by
        have read := settle_of_html isCleared.html (cleared.patience - 1) (.text (c :: rest))
        rw [rule] at read
        exact congrArg Prod.fst read
      refine ⟨bodyText cleared (c :: rest), ?_, ?_⟩
      · rw [settleText, whole, if_neg Bool.false_ne_true, settles]
      · rw [bodyText, isCleared.reconstruct]
        split
        · exact ⟨isCleared, rfl⟩
        · exact ⟨⟨isCleared.inMode, isCleared.named, isCleared.opened, isCleared.templates⟩, rfl⟩
  -- A line feed in front may have been dropped.
  obtain ⟨left, reads⟩ : ∃ left, builder.read (.text text) = (cleared.settleText left, none) := ⟨_, rfl⟩
  obtain ⟨next, settled, isNext, sources⟩ := kept left
  exact ⟨next, by rw [reads, settled], isNext, sources⟩

theorem InLink.endFormatting {tag : Tag} (inLink : builder.InLink tag) :
    ∃ below, (∀ element ∈ below, element.space = .html) ∧
      builder.endFormatting "a" = { builder with stack := below, formatting := [] } := by
  obtain ⟨id, below, stack, html, formatting⟩ := inLink.opened
  refine ⟨below, html, ?_⟩
  have once : builder.adoptOnce "a" = ({ builder with stack := below, formatting := [] }, false) := by
    simp [adoptOnce, formatting, sinceMarker, inLink.named, isOpen, stack, inScope, removeFormatting,
      Formatting.hasId]
  have active : (builder.stack.head?.any fun current =>
      current.isNamed "a" && !builder.formatting.any (·.hasId current.id)) = false := by
    simp [stack, formatting, Formatting.hasId]
  simp only [Builder.endFormatting, active, Bool.false_eq_true, if_false, adoptRounds, once]

theorem InLink.read_end {tag : Tag} (inLink : builder.InLink tag) :
    ∃ next : Builder, builder.read (.endTag ⟨"a", [], false⟩) = (next, none) ∧ next.Resting ∧
      next.sources = builder.sources := by
  let cleared : Builder := { builder with skipNewline := false }
  have isCleared : cleared.InLink tag := inLink.cleared
  obtain ⟨below, html, ended⟩ := isCleared.endFormatting
  have rule : inCurrentMode cleared (.endTag ⟨"a", [], false⟩) = done (cleared.endFormatting "a") := by
    rw [inCurrentMode, isCleared.inMode]
    rfl
  rw [ended] at rule
  refine ⟨{ cleared with stack := below, formatting := [] }, ?_, ?_, rfl⟩
  · have settles : builder.read (.endTag ⟨"a", [], false⟩) =
        cleared.settle (cleared.patience - 1 + 1) (.endTag ⟨"a", [], false⟩) := rfl
    rw [settles, settle_of_html isCleared.html, rule]
    rfl
  · exact .inr (.inr ⟨isCleared.inMode, html, rfl, isCleared.templates⟩)

/-- The end of the input adds no element that has a source. -/
theorem Resting.read_endOfFile (resting : builder.Resting) :
    (builder.read .endOfFile).1.sources = builder.sources := by
  obtain ⟨body, rests, sources, steps, read⟩ := resting.reachesBody .endOfFile
  have rule : inCurrentMode body .endOfFile = done body.reportOpenAtEnd := by
    rw [inCurrentMode, rests.inMode]
    exact if_pos rests.templates
  have reported : body.reportOpenAtEnd.sources = body.sources := by
    rw [reportOpenAtEnd]
    split <;> rfl
  rw [read, settle_of_html rests.html, rule, ← sources, ← reported]
  rfl

end Builder

end PageLoad.Html

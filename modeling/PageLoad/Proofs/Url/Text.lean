import PageLoad.Proofs.Text.Blank
import PageLoad.Url.Parse

/-!
The text of a URL that is read with an authority. It opens with its scheme, a colon and two slashes,
and no white space stands at its end.
-/

namespace PageLoad.Url
open Number Text

def IsGraphic (c : Char) : Prop := 0x20 < c.toNat ∧ c.toNat < 0x7F

instance : DecidablePred IsGraphic := fun c => inferInstanceAs (Decidable (0x20 < c.toNat ∧ c.toNat < 0x7F))

def EndsGraphic (text : List Char) : Prop := ∀ c ∈ text.getLast?, IsGraphic c

theorem endsGraphic_of_forall {text : List Char} (graphic : ∀ c ∈ text, IsGraphic c) : EndsGraphic text :=
  fun c last => graphic c (List.mem_of_getLast? last)

theorem endsGraphic_nil : EndsGraphic [] := fun _ absent => nomatch absent

theorem EndsGraphic.append {front back : List Char} (first : EndsGraphic front) (second : EndsGraphic back) :
    EndsGraphic (front ++ back) := by
  intro c last
  rw [List.getLast?_append, Option.mem_def, Option.or_eq_some_iff] at last
  rcases last with last | ⟨-, last⟩
  · exact second c last
  · exact first c last

theorem EndsGraphic.append_of_ne_nil (front : List Char) {back : List Char} (ends : EndsGraphic back)
    (given : back ≠ []) : EndsGraphic (front ++ back) := by
  have same : (front ++ back).getLast? = back.getLast? := by
    rw [List.getLast?_append, List.getLast?_eq_some_getLast given, Option.some_or]
  unfold EndsGraphic
  rwa [same]

/-! ### Percent-encoding -/

theorem isGraphic_hexUpper : ∀ value < 16, IsGraphic (hexUpper value) := by decide

theorem isGraphic_percentByte (b : UInt8) : ∀ c ∈ percentByte b, IsGraphic c := by
  have high : b.toNat / 16 < 16 := Nat.div_lt_of_lt_mul b.toNat_lt
  have low : b.toNat % 16 < 16 := Nat.mod_lt _ (by decide)
  have percent : IsGraphic '%' := by decide
  intro c member
  simp only [percentByte, List.mem_cons, List.not_mem_nil, or_false] at member
  rcases member with rfl | rfl | rfl
  · exact percent
  · exact isGraphic_hexUpper _ high
  · exact isGraphic_hexUpper _ low

theorem isGraphic_percentEncode {encodes : Char → Bool} {text : List Char}
    (others : ∀ c ∈ text, encodes c = false → IsGraphic c) : ∀ c ∈ percentEncode encodes text, IsGraphic c := by
  intro c member
  obtain ⟨d, inside, found⟩ := List.mem_flatMap.mp member
  split at found
  next =>
    obtain ⟨b, -, written⟩ := List.mem_flatMap.mp found
    exact isGraphic_percentByte b c written
  next plain =>
    rw [List.mem_singleton.mp found]
    exact others d inside (Bool.eq_false_iff.mpr plain)

theorem isGraphic_of_narrow {c : Char} (narrow : isControlOrWide c = false) (blank : c ≠ ' ') :
    IsGraphic c := by
  simp only [isControlOrWide, Bool.or_eq_false_iff, decide_eq_false_iff_not] at narrow
  have other : c.toNat ≠ 0x20 := fun same => blank (Char.toNat_inj.mp same)
  unfold IsGraphic
  omega

theorem isGraphic_of_fragment {c : Char} (plain : fragmentEncodes c = false) : IsGraphic c := by
  simp only [fragmentEncodes, Bool.or_eq_false_iff] at plain
  exact isGraphic_of_narrow plain.1 (by rintro rfl; exact absurd plain.2 (by decide))

theorem isGraphic_of_query {special : Bool} {c : Char} (plain : queryEncodes special c = false) :
    IsGraphic c := by
  simp only [queryEncodes, Bool.or_eq_false_iff] at plain
  exact isGraphic_of_narrow plain.1.1 (by rintro rfl; exact absurd plain.1.2 (by decide))

theorem isGraphic_of_path {c : Char} (plain : pathEncodes c = false) : IsGraphic c := by
  simp only [pathEncodes, Bool.or_eq_false_iff] at plain
  exact isGraphic_of_fragment plain.1

theorem isAlpha_iff {c : Char} : c.isAlpha = true ↔
    (65 ≤ c.toNat ∧ c.toNat ≤ 90) ∨ (97 ≤ c.toNat ∧ c.toNat ≤ 122) := by
  delta Char.isAlpha Char.isUpper Char.isLower
  simp only [Bool.or_eq_true, Bool.and_eq_true, decide_eq_true_eq, ge_iff_le, UInt32.le_iff_toNat_le]
  rfl

theorem isGraphic_of_isAlpha {c : Char} (letter : c.isAlpha = true) : IsGraphic c := by
  have range := isAlpha_iff.mp letter
  unfold IsGraphic
  omega

theorem isGraphic_of_isDigit {c : Char} (digit : c.isDigit = true) : IsGraphic c := by
  have range := Char.isDigit_iff_toNat.mp digit
  have least : 48 ≤ c.toNat := range.1
  have most : c.toNat ≤ 57 := range.2
  unfold IsGraphic
  omega

/-! ### Paths -/

def IsGraphicText (text : String) : Prop := ∀ c ∈ text.toList, IsGraphic c

theorem isGraphicText_empty : IsGraphicText "" := List.forall_mem_nil _

theorem isGraphicText_encodeSegment (segment : List Char) : IsGraphicText (encodeSegment segment) := by
  unfold IsGraphicText
  rw [encodeSegment, String.toList_ofList]
  exact isGraphic_percentEncode fun _ _ plain => isGraphic_of_path plain

theorem isGraphicText_drive {letter : Char} (isLetter : letter.isAlpha = true) :
    IsGraphicText (String.ofList [letter, ':']) := by
  unfold IsGraphicText
  rw [String.toList_ofList]
  simp only [List.mem_cons, List.not_mem_nil, or_false, forall_eq_or_imp, forall_eq]
  exact ⟨isGraphic_of_isAlpha isLetter, by decide⟩

theorem splitAtGap?_drive {segment drive rest : List Char} (found : splitAtGap? segment = some (drive, rest)) :
    IsGraphicText (String.ofList drive) := by
  unfold splitAtGap? at found
  split at found
  next => cases found
  next letter _ _ =>
    split at found
    next =>
      split at found
      next isDrive =>
        cases found
        simp only [Bool.and_eq_true] at isDrive
        exact isGraphicText_drive isDrive.1.1
      next => cases found
    next => cases found

theorem isGraphicText_plainSegments (isFile first : Bool) (segment : List Char) :
    ∀ added ∈ plainSegments isFile first segment, IsGraphicText added := by
  unfold plainSegments
  split
  next =>
    split
    next drive rest _ found =>
      simp only [List.mem_cons, List.not_mem_nil, or_false, forall_eq_or_imp, forall_eq]
      exact ⟨splitAtGap?_drive found, isGraphicText_encodeSegment _⟩
    next letter mark _ _ =>
      split
      next isDrive =>
        simp only [isDriveLetter, Bool.and_eq_true] at isDrive
        simpa using isGraphicText_drive isDrive.1
      next => simpa using isGraphicText_encodeSegment segment
    next => simpa using isGraphicText_encodeSegment segment
  next => simpa using isGraphicText_encodeSegment segment

theorem popSegment_subset (path : List String) : popSegment path ⊆ path := by
  unfold popSegment
  split
  · split
    · exact List.Subset.refl _
    · exact List.subset_cons_self _ _
  · exact List.Subset.refl _

theorem isGraphicText_pushSegments (isFile : Bool) {path : List String}
    (graphic : ∀ part ∈ path, IsGraphicText part) (segments : List (List Char)) :
    ∀ part ∈ pushSegments isFile path segments, IsGraphicText part := by
  have grown {path : List String} (graphic : ∀ part ∈ path, IsGraphicText part) :
      ∀ part ∈ "" :: path, IsGraphicText part :=
    List.forall_mem_cons.mpr ⟨isGraphicText_empty, graphic⟩
  induction segments generalizing path with
  | nil => exact graphic
  | cons segment rest ih =>
    have popped : ∀ part ∈ popSegment path, IsGraphicText part :=
      fun part member => graphic part (popSegment_subset path member)
    unfold pushSegments
    dsimp only
    split
    next =>
      split
      · exact ih (grown popped)
      · exact ih popped
    next =>
      split
      next =>
        split
        · exact ih (grown graphic)
        · exact ih graphic
      next =>
        refine ih fun part member => ?_
        rcases List.mem_append.mp member with added | old
        · exact isGraphicText_plainSegments _ _ _ part (List.mem_reverse.mp added)
        · exact graphic part old

theorem isGraphicText_addSegments (isFile : Bool) (segments : List (List Char)) :
    ∀ part ∈ addSegments isFile [] segments, IsGraphicText part := by
  intro part member
  exact isGraphicText_pushSegments isFile (List.forall_mem_nil _) segments part (List.mem_reverse.mp member)

theorem pushSegments_ne_nil (isFile : Bool) (path : List String) {segments : List (List Char)}
    (given : segments ≠ []) : pushSegments isFile path segments ≠ [] := by
  have added (first : Bool) (segment : List Char) (path : List String) :
      (plainSegments isFile first segment).reverse ++ path ≠ [] := by
    have part : plainSegments isFile first segment ≠ [] := by
      unfold plainSegments
      split
      · split
        · exact List.cons_ne_nil _ _
        · split <;> exact List.cons_ne_nil _ _
        · exact List.cons_ne_nil _ _
      · exact List.cons_ne_nil _ _
    simp [part]
  induction segments generalizing path with
  | nil => exact (given rfl).elim
  | cons segment rest ih =>
    unfold pushSegments
    dsimp only
    cases rest with
    | nil =>
      split
      · exact List.cons_ne_nil _ _
      · split
        · exact List.cons_ne_nil _ _
        · exact added _ _ _
    | cons next rest =>
      split
      · exact ih _ (List.cons_ne_nil _ _)
      · split
        · exact ih _ (List.cons_ne_nil _ _)
        · exact ih _ (List.cons_ne_nil _ _)

theorem addSegments_ne_nil (isFile special : Bool) (path : List String) (text : List Char) :
    addSegments isFile path (splitPath special text) ≠ [] :=
  mt List.reverse_eq_nil_iff.mp (pushSegments_ne_nil isFile path.reverse (List.splitOnP_ne_nil _ _))

theorem isGraphicText_withoutLeadingSlashes {path : List String} (graphic : ∀ part ∈ path, IsGraphicText part) :
    ∀ part ∈ withoutLeadingSlashes path, IsGraphicText part := by
  unfold withoutLeadingSlashes
  split
  next => simpa using isGraphicText_empty
  next => exact fun part member => graphic part ((List.dropWhile_suffix _).subset member)

theorem withoutLeadingSlashes_ne_nil (path : List String) : withoutLeadingSlashes path ≠ [] := by
  unfold withoutLeadingSlashes
  split
  next => exact List.cons_ne_nil _ _
  next given => exact given

theorem isGraphicText_readEnding (special : Bool) (text : List Char) :
    (∀ query ∈ (readEnding special text).1, IsGraphicText query) ∧
      ∀ fragment ∈ (readEnding special text).2, IsGraphicText fragment := by
  have query (part : List Char) : IsGraphicText (String.ofList (percentEncode (queryEncodes special) part)) := by
    unfold IsGraphicText
    rw [String.toList_ofList]
    exact isGraphic_percentEncode fun _ _ plain => isGraphic_of_query plain
  have fragment (part : List Char) : IsGraphicText (String.ofList (percentEncode fragmentEncodes part)) := by
    unfold IsGraphicText
    rw [String.toList_ofList]
    exact isGraphic_percentEncode fun _ _ plain => isGraphic_of_fragment plain
  unfold readEnding
  dsimp only
  split
  next =>
    refine ⟨fun text given => Option.some.inj given ▸ query _, ?_⟩
    split
    · exact fun text given => Option.some.inj given ▸ fragment _
    · exact fun text given => nomatch given
  next =>
    refine ⟨fun text given => (nomatch given), ?_⟩
    split
    · exact fun text given => Option.some.inj given ▸ fragment _
    · exact fun text given => nomatch given

/-! ### Authorities -/

theorem endsGraphic_verbatimHost {text : List Char} {host : Host} (read : verbatimHost text = .ok host) :
    EndsGraphic host.text.toList := by
  unfold verbatimHost at read
  split at read
  next => cases read
  next allowed =>
    cases read
    rw [Host.text, String.toList_ofList]
    refine endsGraphic_of_forall (isGraphic_percentEncode fun c member narrow => isGraphic_of_narrow narrow ?_)
    rintro rfl
    exact allowed (List.any_eq_true.mpr ⟨' ', member, by decide⟩)

theorem endsGraphic_bracketedHost {text : List Char} {host : Host} (read : bracketedHost text = .ok host) :
    EndsGraphic host.text.toList := by
  have bracket : EndsGraphic "]".toList := endsGraphic_of_forall (forall_mem_of_all (by decide +kernel))
  unfold bracketedHost at read
  split at read
  next =>
    split at read
    next =>
      cases read
      rw [Host.text, String.toList_append]
      exact bracket.append_of_ne_nil _ (by decide)
    next => cases read
  next => cases read

theorem endsGraphic_parseHost {text : List Char} {host : Host} (read : parseHost false text = .ok host) :
    EndsGraphic host.text.toList := by
  unfold parseHost at read
  split at read
  next => exact endsGraphic_bracketedHost read
  next => exact endsGraphic_verbatimHost read

theorem endsGraphic_port (port : Option Nat) :
    EndsGraphic (match port with | some number => ":" ++ toString number | none => "").toList := by
  cases port with
  | none => exact endsGraphic_nil
  | some number =>
    rw [String.toList_append]
    refine EndsGraphic.append_of_ne_nil _ (endsGraphic_of_forall fun c member => ?_) (toString_ne_nil number)
    exact isGraphic_of_isDigit (isDigit_of_mem member)

theorem Authority.endsGraphic {authority : Authority} (host : EndsGraphic authority.host.text.toList) :
    EndsGraphic authority.text.toList := by
  have mark : EndsGraphic "@".toList := endsGraphic_of_forall (forall_mem_of_all (by decide +kernel))
  rw [Authority.text, String.toList_append, String.toList_append]
  refine (EndsGraphic.append ?_ host).append (endsGraphic_port authority.port)
  generalize authority.username ++ _ = credentials
  split
  · exact endsGraphic_nil
  · rw [String.toList_append]
    exact mark.append_of_ne_nil _ (by decide)

theorem readAuthority_host {scheme : String} {text rest : List Char} {authority : Authority}
    (read : readAuthority scheme text = .ok (authority, rest)) :
    ∃ text, parseHost (kindOf scheme).isSpecial text = .ok authority.host := by
  unfold readAuthority at read
  simp only [bind, Except.bind, pure, Except.pure, throw, throwThe, MonadExceptOf.throw] at read
  split at read
  next => cases read
  split at read
  next => cases read
  split at read
  next => cases read
  next host isHost =>
    split at read
    next => cases read
    split at read
    next => cases read
    split at read
    next => cases read
    cases read
    exact ⟨_, isHost⟩

/-! ### Schemes -/

def IsScheme (name : List Char) : Prop :=
  ∃ first more, name = first :: more ∧ first.isAlpha = true ∧ ∀ c ∈ more, isSchemeChar c = true

theorem isAlpha_toLower {c : Char} (letter : c.isAlpha = true) : c.toLower.isAlpha = true := by
  delta Char.toLower
  split
  next upper =>
    have range : 65 ≤ c.val.toNat ∧ c.val.toNat ≤ 90 := upper
    refine isAlpha_iff.mpr (.inr ?_)
    change 97 ≤ (c.val + 32).toNat ∧ (c.val + 32).toNat ≤ 122
    rw [UInt32.toNat_add]
    change 97 ≤ (c.val.toNat + 32) % 4294967296 ∧ (c.val.toNat + 32) % 4294967296 ≤ 122
    omega
  next => exact letter

theorem isSchemeChar_of_isAlpha {c : Char} (letter : c.isAlpha = true) : isSchemeChar c = true := by
  simp only [isSchemeChar, Char.isAlphanum, letter, Bool.true_or]

theorem isSchemeChar_toLower {c : Char} (inside : isSchemeChar c = true) : isSchemeChar c.toLower = true := by
  by_cases letter : c.isAlpha = true
  · exact isSchemeChar_of_isAlpha (isAlpha_toLower letter)
  · -- Only letters have a case.
    have same : c.toLower = c := by
      delta Char.toLower
      refine dif_neg fun upper => letter (isAlpha_iff.mpr (.inl upper))
    rw [same]
    exact inside

theorem IsScheme.toLower {name : List Char} (scheme : IsScheme name) : IsScheme (name.map Char.toLower) := by
  obtain ⟨first, more, rfl, letter, rest⟩ := scheme
  refine ⟨first.toLower, more.map Char.toLower, rfl, isAlpha_toLower letter, fun c member => ?_⟩
  obtain ⟨d, inside, rfl⟩ := List.mem_map.mp member
  exact isSchemeChar_toLower (rest d inside)

theorem IsScheme.split {name : List Char} (scheme : IsScheme name) (rest : List Char) :
    (name ++ ':' :: rest).takeWhile isSchemeChar = name ∧
      (name ++ ':' :: rest).dropWhile isSchemeChar = ':' :: rest := by
  obtain ⟨first, more, rfl, letter, inside⟩ := scheme
  have all : ∀ c ∈ first :: more, isSchemeChar c = true := by
    exact List.forall_mem_cons.mpr ⟨isSchemeChar_of_isAlpha letter, inside⟩
  rw [List.takeWhile_append_of_pos all, List.takeWhile_cons_of_neg (by decide), List.append_nil,
    List.dropWhile_append_of_pos all, List.dropWhile_cons_of_neg (by decide)]
  exact ⟨rfl, rfl⟩

theorem IsScheme.splitScheme? {name : List Char} (scheme : IsScheme name) (rest : List Char) :
    splitScheme? (name ++ ':' :: rest) = some (String.ofList (name.map Char.toLower), rest) := by
  have ⟨taken, dropped⟩ := scheme.split rest
  obtain ⟨first, more, rfl, letter, -⟩ := scheme
  rw [List.cons_append] at taken dropped ⊢
  simp only [Url.splitScheme?, letter, taken, dropped, Bool.not_true, Bool.false_eq_true, if_false]

theorem isSchemeChar_graphic {c : Char} (inside : isSchemeChar c = true) : IsGraphic c := by
  simp only [isSchemeChar, Char.isAlphanum, Bool.or_eq_true, decide_eq_true_eq] at inside
  rcases inside with (((letter | digit) | rfl) | rfl) | rfl
  · exact isGraphic_of_isAlpha letter
  · exact isGraphic_of_isDigit digit
  · decide
  · decide
  · decide

theorem IsScheme.graphic {name : List Char} (scheme : IsScheme name) : ∀ c ∈ name, IsGraphic c := by
  obtain ⟨first, more, rfl, letter, inside⟩ := scheme
  exact List.forall_mem_cons.mpr ⟨isGraphic_of_isAlpha letter, fun c member => isSchemeChar_graphic (inside c member)⟩

theorem IsScheme.visible {name : List Char} (scheme : IsScheme name) (rest : List Char) :
    visible (name ++ rest) = name ++ visible rest := by
  have kept : ∀ c ∈ name, (!isGap c) = true := by
    intro c member
    have graphic := scheme.graphic c member
    cases gap : isGap c with
    | false => rfl
    | true =>
      simp only [isGap, Bool.or_eq_true, decide_eq_true_eq] at gap
      rcases gap with (rfl | rfl) | rfl <;> exact absurd graphic (by decide)
  rw [Url.visible, List.filter_append, List.filter_eq_self.mpr kept]
  rfl

theorem IsScheme.trimEdges {name : List Char} (scheme : IsScheme name) (rest : List Char) :
    ∃ kept, trimEdges (name ++ ':' :: '/' :: '/' :: rest) = name ++ ':' :: '/' :: '/' :: kept := by
  have front : (name ++ ':' :: '/' :: '/' :: rest).dropWhile (fun c => decide (c.toNat ≤ 0x20)) =
      name ++ ':' :: '/' :: '/' :: rest := by
    obtain ⟨first, more, rfl, letter, -⟩ := scheme
    have graphic := isGraphic_of_isAlpha letter
    exact List.dropWhile_cons_of_neg (by simpa using graphic.1)
  have parts (text : List Char) : name ++ ':' :: '/' :: '/' :: text = (name ++ [':', '/']) ++ '/' :: text := by simp
  rw [Url.trimEdges, front, parts]
  obtain ⟨kept, same⟩ := dropEndWhile_stays (p := fun c => decide (c.toNat ≤ 0x20)) (c := '/') (by decide)
    (name ++ [':', '/']) rest
  exact ⟨kept, same.trans (parts kept).symm⟩

/-! ### URLs -/

/-- A URL under an authority. What stands behind the authority ends in a character that is seen, and
so does the authority where nothing stands behind it. -/
structure IsPlaced (url : Url) : Prop where
  scheme : IsScheme url.scheme.toList
  authority : ∃ authority, url.authority = some authority ∧
    (url.path = .segments [] → EndsGraphic authority.text.toList)
  path : ∃ parts, url.path = .segments parts ∧ ∀ part ∈ parts, IsGraphicText part
  query : ∀ text ∈ url.query, IsGraphicText text
  fragment : ∀ text ∈ url.fragment, IsGraphicText text

theorem finish_placed {scheme : String} (isScheme : IsScheme scheme.toList) (authority : Authority)
    (text : List Char) : IsPlaced (finish scheme (some authority) [] text) := by
  have ⟨query, fragment⟩ := isGraphicText_readEnding (kindOf scheme).isSpecial
    (text.drop (text.takeWhile (!endsPath ·)).length)
  refine ⟨isScheme, ⟨authority, rfl, fun empty => ?_⟩, ⟨_, rfl, isGraphicText_addSegments _ _⟩, query, fragment⟩
  exact (addSegments_ne_nil _ _ _ _ (UrlPath.segments.inj empty)).elim

theorem finishAfterAuthority_placed {scheme : String} (isScheme : IsScheme scheme.toList)
    {authority : Authority} (ends : (kindOf scheme).isSpecial = false → EndsGraphic authority.text.toList)
    (text : List Char) : IsPlaced (finishAfterAuthority scheme authority text) := by
  unfold finishAfterAuthority
  dsimp only
  split
  next c rest =>
    split
    next => exact finish_placed isScheme authority rest
    next =>
      split
      next => exact finish_placed isScheme authority (c :: rest)
      next bare =>
        have other : (kindOf scheme).isSpecial = false := by
          simp only [Bool.or_eq_true, not_or, Bool.not_eq_true] at bare
          exact bare.1
        have ⟨query, fragment⟩ := isGraphicText_readEnding (kindOf scheme).isSpecial (c :: rest)
        exact ⟨isScheme, ⟨authority, rfl, fun _ => ends other⟩, ⟨[], rfl, List.forall_mem_nil _⟩, query, fragment⟩
  next =>
    refine ⟨isScheme, ⟨authority, rfl, fun empty => ends ?_⟩, ⟨_, rfl, ?_⟩, fun _ absent => (nomatch absent),
      fun _ absent => (nomatch absent)⟩
    · cases special : (kindOf scheme).isSpecial with
      | false => rfl
      | true => simp [special] at empty
    · split
      · simpa using isGraphicText_empty
      · exact List.forall_mem_nil _

theorem readAfterSlashes_placed {scheme : String} (isScheme : IsScheme scheme.toList) {text : List Char}
    {url : Url} (read : readAfterSlashes scheme text = .ok url) : IsPlaced url := by
  simp only [readAfterSlashes, bind, Except.bind, pure, Except.pure] at read
  split at read
  next => cases read
  next found isFound =>
    cases read
    obtain ⟨hostText, isHost⟩ := readAuthority_host isFound
    refine finishAfterAuthority_placed isScheme (fun other => Authority.endsGraphic ?_) _
    rw [other] at isHost
    exact endsGraphic_parseHost isHost

theorem isScheme_file : IsScheme "file".toList :=
  ⟨'f', ['i', 'l', 'e'], rfl, rfl, forall_mem_of_all rfl⟩

theorem finishFile_placed (authority : Authority) (text : List Char) :
    IsPlaced (finishFile authority (addSegments true []) text) := by
  have ⟨query, fragment⟩ := isGraphicText_readEnding true
    (visible (text.drop (text.takeWhile (!endsPath ·)).length))
  refine ⟨isScheme_file, ⟨authority, rfl, fun empty => ?_⟩, ⟨_, rfl, ?_⟩, query, fragment⟩
  · exact (withoutLeadingSlashes_ne_nil _ (UrlPath.segments.inj empty)).elim
  · exact isGraphicText_withoutLeadingSlashes (isGraphicText_addSegments _ _)

theorem finishHostedFile_placed (authority : Authority) (text : List Char) :
    IsPlaced (finishHostedFile authority text) := by
  unfold finishHostedFile
  dsimp only
  split
  · exact finishFile_placed localAuthority text
  · exact finishFile_placed authority text

theorem readFileAfterSlashes_placed {text : List Char} {url : Url} (read : readFileAfterSlashes text = .ok url) :
    IsPlaced url := by
  simp only [readFileAfterSlashes, bind, Except.bind, pure, Except.pure] at read
  split at read
  next =>
    cases read
    exact finishFile_placed _ _
  next =>
    split at read
    next => cases read
    next =>
      split at read
      next =>
        cases read
        exact finishFile_placed _ _
      next =>
        cases read
        exact finishHostedFile_placed _ _

theorem readFile_placed {text : List Char} {url : Url} (read : readFile none text = .ok url) : IsPlaced url := by
  unfold readFile at read
  dsimp only at read
  split at read
  next => exact readFileAfterSlashes_placed read
  next =>
    split at read
    next =>
      cases read
      exact finishFile_placed _ _
    next =>
      cases read
      exact finishFile_placed _ _

/-- What opens with a scheme, a colon and two slashes is read with an authority. -/
theorem parse_placed {text : String} {name rest : List Char} (scheme : IsScheme name)
    (opens : text.toList = name ++ ':' :: '/' :: '/' :: rest) {url : Url} (parsed : parse text = .ok url) :
    IsPlaced url := by
  obtain ⟨kept, trimmed⟩ := scheme.trimEdges rest
  have lower : IsScheme (String.ofList (name.map Char.toLower)).toList := by
    rw [String.toList_ofList]
    exact scheme.toLower
  have seen : visible (name ++ ':' :: '/' :: '/' :: kept) = name ++ ':' :: '/' :: '/' :: visible kept := by
    rw [scheme.visible]
    rfl
  rw [parse, opens, trimmed, readReference, seen] at parsed
  simp only [scheme.splitScheme?] at parsed
  split at parsed
  next => exact readFile_placed parsed
  next => exact readAfterSlashes_placed lower parsed
  next => exact readAfterSlashes_placed lower parsed

theorem IsPlaced.opens {url : Url} (placed : IsPlaced url) :
    ∃ rest, url.text.toList = url.scheme.toList ++ ':' :: '/' :: '/' :: rest := by
  obtain ⟨authority, present, -⟩ := placed.authority
  simp only [text, present, String.toList_append, List.append_assoc]
  exact ⟨_, rfl⟩

theorem endsGraphic_marked (mark : String) (graphic : IsGraphicText mark) {part : Option String}
    (inside : ∀ text ∈ part, IsGraphicText text) :
    EndsGraphic (match part with | some text => mark ++ text | none => "").toList := by
  cases part with
  | none => exact endsGraphic_nil
  | some text =>
    rw [String.toList_append]
    exact (endsGraphic_of_forall graphic).append (endsGraphic_of_forall (inside text rfl))

theorem isGraphicText_segments {parts : List String} (graphic : ∀ part ∈ parts, IsGraphicText part) :
    IsGraphicText (UrlPath.segments parts).text := by
  have slash : IsGraphicText "/" := forall_mem_of_all (by decide +kernel)
  intro c member
  rw [UrlPath.text, String.toList_join] at member
  obtain ⟨written, inside, found⟩ := List.mem_flatMap.mp member
  obtain ⟨part, listed, rfl⟩ := List.mem_map.mp inside
  rcases List.mem_append.mp (String.toList_append ▸ found) with first | later
  · exact slash c first
  · exact graphic part listed c later

theorem IsPlaced.endsGraphic {url : Url} (placed : IsPlaced url) : EndsGraphic url.text.toList := by
  obtain ⟨authority, present, bare⟩ := placed.authority
  obtain ⟨parts, isPath, graphic⟩ := placed.path
  have query := endsGraphic_marked "?" (forall_mem_of_all (by decide +kernel)) placed.query
  have fragment := endsGraphic_marked "#" (forall_mem_of_all (by decide +kernel)) placed.fragment
  have path := endsGraphic_of_forall (isGraphicText_segments graphic)
  have pathText : url.pathText = (UrlPath.segments parts).text := by simp only [Url.pathText, present, isPath]
  simp only [text, present, String.toList_append, pathText]
  refine (EndsGraphic.append ?_ query).append fragment
  cases parts with
  | nil =>
    have slashes : EndsGraphic "//".toList := endsGraphic_of_forall (forall_mem_of_all (by decide +kernel))
    refine (EndsGraphic.append_of_ne_nil _ (slashes.append (bare isPath)) ?_).append path
    simp
  | cons part parts =>
    refine path.append_of_ne_nil _ ?_
    simp [UrlPath.text, String.toList_join]

end PageLoad.Url

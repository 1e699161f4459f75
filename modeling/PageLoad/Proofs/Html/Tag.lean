import PageLoad.Html.Lexer
import PageLoad.Proofs.Text.Blank

/-!
Tags with one value in quotes, their end tags and text between them are read as they are written, if their
characters stand for themselves.
-/

namespace PageLoad.Html
open Text

def IsPlain (c : Char) : Prop := c ≠ '&' ∧ c ≠ '\x00' ∧ c ≠ '\r'

instance (c : Char) : Decidable (IsPlain c) := inferInstanceAs (Decidable (_ ∧ _))

def tagText (name key value : List Char) : List Char :=
  name ++ ' ' :: (key ++ '=' :: '"' :: (value ++ ['"', '>']))

theorem decodeValue_plain {value : List Char} (plain : ∀ c ∈ value, IsPlain c) (quoted : Bool)
    (stop : List Char) : decodeValue quoted value.length (value ++ stop) = (value, []) := by
  induction value with
  | nil => rw [List.length_nil, decodeValue]
  | cons c value ih =>
    obtain ⟨reference, nul, carriage⟩ := plain c List.mem_cons_self
    have rest := ih fun other member => plain other (List.mem_cons_of_mem c member)
    rw [List.length_cons, List.cons_append, decodeValue.eq_def]
    split
    next => contradiction
    next => contradiction
    next same => exact absurd (List.cons.inj same).1 nul
    next same => exact absurd (List.cons.inj same).1 carriage
    next same => exact absurd (List.cons.inj same).1 carriage
    next same => exact absurd (List.cons.inj same).1 reference
    next _ _ _ _ _ same =>
      obtain ⟨rfl, rfl⟩ := List.cons.inj same
      obtain rfl := Nat.succ.inj ‹_ = Nat.succ _›
      simp only [rest]

structure IsLetter (c : Char) : Prop where
  isAlpha : c.isAlpha = true
  lower : c.toLower = c

instance (c : Char) : Decidable (IsLetter c) :=
  decidable_of_iff (c.isAlpha = true ∧ c.toLower = c) ⟨fun ⟨isAlpha, lower⟩ => ⟨isAlpha, lower⟩,
    fun letter => ⟨letter.isAlpha, letter.lower⟩⟩

structure IsName (name : List Char) : Prop where
  nonempty : name ≠ []
  letters : ∀ c ∈ name, IsLetter c

instance (name : List Char) : Decidable (IsName name) :=
  decidable_of_iff (name ≠ [] ∧ name.all (fun c => decide (IsLetter c)) = true)
    ⟨fun ⟨nonempty, letters⟩ => ⟨nonempty, forall_mem_of_all letters⟩, fun isName =>
      ⟨isName.nonempty, List.all_eq_true.mpr fun c member => decide_eq_true (isName.letters c member)⟩⟩

namespace IsLetter
variable {c : Char} (letter : IsLetter c)
include letter

theorem ne {mark : Char} (other : mark.isAlpha = false) : c ≠ mark := by
  rintro rfl
  cases letter.isAlpha.symm.trans other

theorem space : isSpace c = false := by
  have others : c ≠ ' ' ∧ c ≠ '\t' ∧ c ≠ '\n' ∧ c ≠ '\r' ∧ c ≠ '\x0C' :=
    ⟨letter.ne rfl, letter.ne rfl, letter.ne rfl, letter.ne rfl, letter.ne rfl⟩
  simp only [isSpace, others, decide_false, Bool.or_self]

theorem nameChar : TagDraft.nameChar c = c := by
  rw [TagDraft.nameChar, if_neg (letter.ne (by decide)), letter.lower]

theorem reportIn (draft : TagDraft) {marks : String} (others : ∀ mark ∈ marks.toList, mark.isAlpha = false) :
    draft.reportIn marks c = draft := by
  have proper : marks.toList.contains c = false :=
    Bool.eq_false_iff.mpr fun found => letter.ne (others c (List.contains_iff_mem.mp found)) rfl
  rw [TagDraft.reportIn, proper, if_neg Bool.false_ne_true]

end IsLetter

namespace TagDraft
variable (draft : TagDraft) {c : Char}

theorem step_name (letter : IsLetter c) :
    draft.step .name c = ({ draft with name := c :: draft.name }, some .name) := by
  have slash : c ≠ '/' := letter.ne (by decide)
  have ends : c ≠ '>' := letter.ne (by decide)
  have proper : draft.reportIn "\x00" c = draft := letter.reportIn draft (forall_mem_of_all (by decide))
  simp only [step, letter.space, slash, ends, proper, letter.nameChar, Bool.false_eq_true, if_false]

theorem step_beforeAttribute (letter : IsLetter c) :
    draft.step .beforeAttribute c =
      ({ draft.endAttribute with attributeName := [c] }, some .attributeName) := by
  have slash : c ≠ '/' := letter.ne (by decide)
  have ends : c ≠ '>' := letter.ne (by decide)
  have proper : draft.reportIn "\x00\"'<=" c = draft := letter.reportIn draft (forall_mem_of_all (by decide))
  simp only [step, beforeAttribute, startAttribute, letter.space, slash, ends, proper, letter.nameChar,
    Bool.false_eq_true, if_false]

theorem step_attributeName (letter : IsLetter c) :
    draft.step .attributeName c =
      ({ draft with attributeName := c :: draft.attributeName }, some .attributeName) := by
  have slash : c ≠ '/' := letter.ne (by decide)
  have equals : c ≠ '=' := letter.ne (by decide)
  have ends : c ≠ '>' := letter.ne (by decide)
  have proper : draft.reportIn "\x00\"'<" c = draft := letter.reportIn draft (forall_mem_of_all (by decide))
  simp only [step, letter.space, slash, equals, ends, proper, letter.nameChar, Bool.false_eq_true, if_false]

theorem step_quotedValue {quote : Char} (other : c ≠ quote) :
    draft.step (.quotedValue quote) c =
      ({ draft with rawValue := c :: draft.rawValue }, some (.quotedValue quote)) := by
  simp only [step, if_neg other]

end TagDraft

theorem readTag_name (draft : TagDraft) {name : List Char} (letters : ∀ c ∈ name, IsLetter c) (rest : List Char) :
    readTag draft .name (name ++ rest) =
      readTag { draft with name := name.reverse ++ draft.name } .name rest := by
  induction name generalizing draft with
  | nil => rfl
  | cons c name ih =>
    have later := ih { draft with name := c :: draft.name } fun other member =>
      letters other (List.mem_cons_of_mem c member)
    rw [List.cons_append, readTag, draft.step_name (letters c List.mem_cons_self)]
    simp only [later, List.reverse_cons, List.append_assoc, List.singleton_append]

theorem readTag_attributeName (draft : TagDraft) {key : List Char} (letters : ∀ c ∈ key, IsLetter c)
    (rest : List Char) :
    readTag draft .attributeName (key ++ rest) =
      readTag { draft with attributeName := key.reverse ++ draft.attributeName } .attributeName rest := by
  induction key generalizing draft with
  | nil => rfl
  | cons c key ih =>
    have later := ih { draft with attributeName := c :: draft.attributeName } fun other member =>
      letters other (List.mem_cons_of_mem c member)
    rw [List.cons_append, readTag, draft.step_attributeName (letters c List.mem_cons_self)]
    simp only [later, List.reverse_cons, List.append_assoc, List.singleton_append]

theorem readTag_quotedValue (draft : TagDraft) {quote : Char} {value : List Char} (inside : quote ∉ value)
    (rest : List Char) :
    readTag draft (.quotedValue quote) (value ++ rest) =
      readTag { draft with rawValue := value.reverse ++ draft.rawValue } (.quotedValue quote) rest := by
  induction value generalizing draft with
  | nil => rfl
  | cons c value ih =>
    obtain ⟨other, others⟩ := List.ne_and_not_mem_of_not_mem_cons inside
    have later := ih { draft with rawValue := c :: draft.rawValue } others
    rw [List.cons_append, readTag, draft.step_quotedValue other.symm]
    simp only [later, List.reverse_cons, List.append_assoc, List.singleton_append]

theorem readTag_tagText {name key value : List Char} (isName : IsName name) (isKey : IsName key)
    (quote : '"' ∉ value) (plain : ∀ c ∈ value, IsPlain c) (rest : List Char) :
    readTag (TagDraft.start false) .name (tagText name key value ++ rest) =
      ⟨[], [.startTag ⟨String.ofList name, [⟨String.ofList key, String.ofList value⟩], false⟩], rest⟩ := by
  obtain ⟨letter, key, rfl⟩ := List.exists_cons_of_ne_nil isKey.nonempty
  obtain ⟨first, others⟩ := List.forall_mem_cons.mp isKey.letters
  have text : tagText name (letter :: key) value ++ rest =
      name ++ ' ' :: letter :: (key ++ '=' :: '"' :: (value ++ '"' :: '>' :: rest)) := by
    simp [tagText]
  have blank (draft : TagDraft) : draft.step .name ' ' = (draft, some .beforeAttribute) := rfl
  have equals (draft : TagDraft) : draft.step .attributeName '=' = (draft, some .beforeValue) := rfl
  have quoted (draft : TagDraft) : draft.step .beforeValue '"' = (draft, some (.quotedValue '"')) := rfl
  have ended (draft : TagDraft) :
      draft.step (.quotedValue '"') '"' = (draft.endValue true ['"'], some .afterValue) := rfl
  have closed (draft : TagDraft) : draft.step .afterValue '>' = (draft, none) := rfl
  rw [text, readTag_name _ isName.letters, readTag, blank]
  dsimp only
  rw [readTag, TagDraft.step_beforeAttribute _ first]
  dsimp only
  rw [readTag_attributeName _ others, readTag, equals]
  dsimp only
  rw [readTag, quoted]
  dsimp only
  rw [readTag_quotedValue _ quote, readTag, ended]
  dsimp only
  rw [readTag, closed]
  simp [TagDraft.endValue, decodeValue_plain plain, TagDraft.endAttribute, TagDraft.start, TagDraft.finish]

theorem readTag_closing {name : List Char} (isName : IsName name) (rest : List Char) :
    readTag (TagDraft.start true) .name (name ++ '>' :: rest) =
      ⟨[], [.endTag ⟨String.ofList name, [], false⟩], rest⟩ := by
  have closed (draft : TagDraft) : draft.step .name '>' = (draft, none) := rfl
  rw [readTag_name _ isName.letters, readTag, closed]
  simp [TagDraft.endAttribute, TagDraft.start, TagDraft.finish]

/-! Pieces of markup. -/

theorem readPiece_opening {name key value : List Char} (isName : IsName name) (isKey : IsName key)
    (quote : '"' ∉ value) (plain : ∀ c ∈ value, IsPlain c) (single foreign : Bool) (rest : List Char) :
    readPiece (.markup single) foreign ('<' :: (tagText name key value ++ rest)) =
      (⟨[], [.startTag ⟨String.ofList name, [⟨String.ofList key, String.ofList value⟩], false⟩], rest⟩,
        .markup false) := by
  have read := readTag_tagText isName isKey quote plain rest
  obtain ⟨letter, name, rfl⟩ := List.exists_cons_of_ne_nil isName.nonempty
  have first := isName.letters letter List.mem_cons_self
  simp only [tagText, List.cons_append] at read ⊢
  rw [readPiece, readMarkup.eq_def]
  split
  next => contradiction
  next same => exact absurd (List.cons.inj same).1 (first.ne (by decide))
  next same => exact absurd (List.cons.inj same).1 (first.ne (by decide))
  next same => exact absurd (List.cons.inj same).1 (first.ne (by decide))
  next c _ _ _ _ same =>
    obtain ⟨rfl, rfl⟩ := List.cons.inj same
    rw [if_pos first.isAlpha, read]

theorem readPiece_closing {name : List Char} (isName : IsName name) (single foreign : Bool) (rest : List Char) :
    readPiece (.markup single) foreign ('<' :: '/' :: (name ++ '>' :: rest)) =
      (⟨[], [.endTag ⟨String.ofList name, [], false⟩], rest⟩, .markup false) := by
  have read := readTag_closing isName rest
  obtain ⟨letter, name, rfl⟩ := List.exists_cons_of_ne_nil isName.nonempty
  have first := isName.letters letter List.mem_cons_self
  rw [readPiece, readMarkup, List.cons_append, readEndTag.eq_def]
  split
  next => contradiction
  next same => exact absurd (List.cons.inj same).1 (first.ne (by decide))
  next c _ _ same =>
    obtain ⟨rfl, rfl⟩ := List.cons.inj same
    rw [if_pos first.isAlpha, ← List.cons_append, read]

theorem readPiece_raw (kind : RawKind) {name : List Char} (isName : IsName name) (foreign : Bool)
    {rest : List Char} (unmarked : dropByteOrderMark rest = rest) :
    readPiece (.raw kind name) foreign ('<' :: '/' :: (name ++ '>' :: rest)) =
      (⟨[], [.endTag ⟨String.ofList name, [], false⟩], rest⟩, .markup false) := by
  have isAlpha : ∀ c ∈ name, c.isAlpha = true := fun c member => (isName.letters c member).isAlpha
  have word : (name ++ '>' :: rest).takeWhile Char.isAlpha = name := by
    rw [List.takeWhile_append_of_pos isAlpha, List.takeWhile_cons_of_neg (by decide), List.append_nil]
  have lower : name.map Char.toLower = name :=
    (List.map_congr_left fun c member => (isName.letters c member).lower).trans (List.map_id' name)
  have ends : isEndTagOf name ('/' :: (name ++ '>' :: rest)) = true := by
    simp [isEndTagOf, word, lower]
  cases kind <;>
    simp [readPiece, readRaw, scanText, scanScript, ScriptPlace.settle, ScriptPlace.sees, ends,
      readTag_closing isName, unmarked]

theorem endsRun_of_isPlain {c : Char} (plain : IsPlain c) (opening : c ≠ '<') (line : c ≠ '\n') :
    endsRun c = false := by
  obtain ⟨reference, nul, carriage⟩ := plain
  simp only [endsRun, nul, reference, opening, line, carriage, decide_false, Bool.or_self]

theorem takeWhile_append_of_stop {p : Char → Bool} {stop : Char} (stops : p stop = false)
    (text rest : List Char) : (text ++ stop :: rest).takeWhile p = text.takeWhile p := by
  induction text with
  | nil => rw [List.nil_append, List.takeWhile_cons_of_neg (Bool.eq_false_iff.mp stops), List.takeWhile_nil]
  | cons c text ih => simp only [List.cons_append, List.takeWhile_cons, ih]

theorem readPiece_text {text : List Char} (some : text ≠ []) (plain : ∀ c ∈ text, IsPlain c)
    (unmarked : '<' ∉ text) (foreign : Bool) (rest : List Char) :
    ∃ run later, text = run ++ later ∧ run ≠ [] ∧
      readPiece (.markup false) foreign (text ++ '<' :: rest) =
        (⟨[], [.text run], later ++ '<' :: rest⟩, .markup false) := by
  obtain ⟨c, text, rfl⟩ := List.exists_cons_of_ne_nil some
  have first := plain c List.mem_cons_self
  have opening : c ≠ '<' := fun same => unmarked (same ▸ List.mem_cons_self)
  by_cases line : c = '\n'
  · subst line
    exact ⟨['\n'], text, rfl, List.cons_ne_nil _ _, rfl⟩
  · have goes : endsRun c = false := endsRun_of_isPlain first opening line
    have whole := List.takeWhile_append_dropWhile (p := (!endsRun ·)) (l := c :: text)
    have taken : (c :: text ++ '<' :: rest).takeWhile (!endsRun ·) = (c :: text).takeWhile (!endsRun ·) :=
      takeWhile_append_of_stop (by decide) (c :: text) rest
    have some : (c :: text).takeWhile (!endsRun ·) ≠ [] := by
      simp only [List.takeWhile_cons, goes, Bool.not_false, if_true]
      exact List.cons_ne_nil _ _
    generalize (c :: text).takeWhile (!endsRun ·) = run at whole taken some
    generalize (c :: text).dropWhile (!endsRun ·) = later at whole
    refine ⟨run, later, whole.symm, some, ?_⟩
    rw [List.cons_append] at taken ⊢
    rw [readPiece.eq_def]
    simp only
    split
    next same => exact absurd (List.cons.inj same).1 opening
    next same => exact absurd (List.cons.inj same).1 first.1
    next same => exact absurd (List.cons.inj same).1 first.2.1
    next same => exact absurd (List.cons.inj same).1 line
    next same => exact absurd (List.cons.inj same).1 first.2.2
    next same => exact absurd (List.cons.inj same).1 first.2.2
    next =>
      simp only [Bool.false_eq_true, if_false, taken]
      rw [← List.cons_append, ← whole, List.append_assoc, List.drop_left]

end PageLoad.Html

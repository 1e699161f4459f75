import PageLoad.Text.Json
import PageLoad.Text.JsonReading
import PageLoad.Proofs.Text.Blank
import Mathlib.Data.List.TakeWhile

/-!
An object that has been written as JSON is read as it was.
-/

namespace PageLoad.Text.Json

theorem readText?_plain {c : Char} (printable : 32 ≤ c.toNat) (quote : c ≠ '"') (slash : c ≠ '\\')
    (rest : List Char) : readText? (c :: rest) = (readText? rest).map (consText c) := by
  rw [readText?.eq_def]
  split
  next same => cases same
  next same => exact absurd (List.cons.inj same).1 quote
  next same => exact absurd (List.cons.inj same).1 slash
  next same => exact absurd (List.cons.inj same).1 slash
  next same =>
    obtain ⟨rfl, rfl⟩ := List.cons.inj same
    have kept : ¬(decide (c.toNat < 0x20) || decide (c = '\\')) = true := by
      simp only [Bool.or_eq_true, decide_eq_true_eq, not_or, Nat.not_lt]
      exact ⟨printable, slash⟩
    rw [if_neg kept]

theorem fourDigits?_control : ∀ code < 32,
    fourDigits? '0' '0' (Nat.digitChar (code / 16)) (Nat.digitChar (code % 16)) = some code := by
  decide

theorem hexText_control : ∀ code < 32, hexText code =
    if code < 16 then [Nat.digitChar (code % 16)] else [Nat.digitChar (code / 16), Nat.digitChar (code % 16)] := by
  decide

theorem readText?_control {code : Nat} (control : code < 32) (rest : List Char) :
    readText? (['\\', 'u', '0', '0', Nat.digitChar (code / 16), Nat.digitChar (code % 16)] ++ rest) =
      (readText? rest).map (consText (Char.ofNat code)) := by
  have valid : code.isValidChar := .inl (by omega)
  simp only [List.cons_append, List.nil_append, readText?, fourDigits?_control code control, valid, if_true]

theorem readText?_escapeChar (c : Char) (rest : List Char) :
    readText? (escapeChar c ++ rest) = (readText? rest).map (consText c) := by
  have control {code : Nat} (same : c.toNat = code) (small : code < 32) := by
    have read := readText?_control small rest
    rwa [← same, Char.ofNat_toNat] at read
  by_cases special : c = '"' ∨ c = '\\' ∨ c = '\x08' ∨ c = '\x09' ∨ c = '\x0A' ∨ c = '\x0C' ∨ c = '\x0D'
  · rcases special with rfl | rfl | rfl | rfl | rfl | rfl | rfl <;> rfl
  · simp only [not_or] at special
    obtain ⟨quote, slash, backspace, tab, line, page, carriage⟩ := special
    simp only [escapeChar, quote, slash, backspace, tab, line, page, carriage, if_false]
    split
    next low =>
      have zero : c.toNat / 16 = 0 := by omega
      have digits : hexText c.toNat = [Nat.digitChar (c.toNat % 16)] := by
        rw [hexText_control c.toNat (by omega), if_pos low]
      have read := control rfl (by omega)
      rw [zero] at read
      rw [digits]
      exact read
    next high =>
      split
      next low =>
        have digits := hexText_control c.toNat low
        rw [if_neg high] at digits
        rw [digits]
        exact control rfl low
      next printable => exact readText?_plain (Nat.le_of_not_lt printable) quote slash rest

/-- Text that has been written is read up to its closing quote. -/
theorem readText?_escaped (text rest : List Char) :
    readText? (text.flatMap escapeChar ++ '"' :: rest) = some (text, rest) := by
  induction text with
  | nil => rfl
  | cons c text ih =>
    rw [List.flatMap_cons, List.append_assoc, readText?_escapeChar, ih]
    rfl

theorem string_toList (text : String) (rest : List Char) :
    (string text).toList ++ rest = '"' :: (text.toList.flatMap escapeChar ++ '"' :: rest) := by
  rw [string, String.toList_ofList, List.append_assoc]
  rfl

def Value.json : Value → String
  | .text value => string value
  | .number literal => literal
  | .null => "null"

def Value.IsProper : Value → Prop
  | .number literal => isNumber literal.toList = true ∧ literal.toList.all isNumberChar = true
  | _ => True

theorem readValue?_json {value : Value} (proper : value.IsProper) {rest : List Char}
    (ended : ∀ c ∈ rest.head?, isNumberChar c = false) :
    readValue? (value.json.toList ++ rest) = some (value, rest) := by
  cases value with
  | text value =>
    rw [Value.json, string_toList]
    simp only [readValue?, readText?_escaped, Option.map_some, String.ofList_toList]
  | null => rfl
  | number literal =>
    obtain ⟨number, chars⟩ := proper
    have inside := List.all_eq_true.mp chars
    have taken : (literal.toList ++ rest).takeWhile isNumberChar = literal.toList := by
      rw [List.takeWhile_append_of_pos inside, takeWhile_of_head ended, List.append_nil]
    have dropped : (literal.toList ++ rest).dropWhile isNumberChar = rest := by
      rw [List.dropWhile_append_of_pos inside, dropWhile_of_head ended]
    have other {c : Char} {after : List Char} (strange : isNumberChar c = false) :
        literal.toList ++ rest ≠ c :: after := by
      intro same
      rw [same, List.takeWhile_cons_of_neg (by rw [strange]; decide)] at taken
      rw [← taken] at number
      exact absurd number (by decide)
    rw [Value.json, readValue?.eq_def]
    split
    next same => exact absurd same (other (by decide))
    next same => exact absurd same (other (by decide))
    next => simp only [taken, dropped, number, if_true, String.ofList_toList]

def memberText (member : String × Value) : String := string member.1 ++ ":" ++ member.2.json

theorem readMember?_memberText {member : String × Value} (proper : member.2.IsProper) {rest : List Char}
    (ended : ∀ c ∈ rest.head?, isNumberChar c = false) :
    readMember? ((memberText member).toList ++ rest) = some (member, rest) := by
  have text : (memberText member).toList ++ rest =
      '"' :: (member.1.toList.flatMap escapeChar ++ '"' :: ':' :: (member.2.json.toList ++ rest)) := by
    rw [memberText, String.toList_append, String.toList_append, List.append_assoc, List.append_assoc,
      string_toList]
    rfl
  simp only [text, readMember?, readText?_escaped, readValue?_json proper ended, Option.map_some,
    String.ofList_toList]

theorem readMembers?_intercalate {member : String × Value} {members : List (String × Value)}
    (proper : ∀ each ∈ member :: members, each.2.IsProper) :
    readMembers? ([','].intercalate ((member :: members).map fun each => (memberText each).toList) ++ ['\x7d'])
      = some (member :: members) := by
  induction members generalizing member with
  | nil =>
    have read : readMember? ((memberText member).toList ++ ['\x7d']) = some (member, ['\x7d']) :=
      readMember?_memberText (proper member List.mem_cons_self) (by rintro _ ⟨⟩; rfl)
    rw [readMembers?.eq_def, List.map_singleton, List.intercalate_singleton, read]
    rfl
  | cons next members ih =>
    have later := ih fun each listed => proper each (List.mem_cons_of_mem member listed)
    rw [List.map_cons] at later
    rw [List.map_cons, List.map_cons, List.intercalate_cons_cons, List.append_assoc, List.append_assoc,
      List.singleton_append]
    generalize ([','].intercalate ((memberText next).toList :: members.map fun each => (memberText each).toList)
      ++ ['\x7d']) = text at later
    have read : readMember? ((memberText member).toList ++ ',' :: text) = some (member, ',' :: text) :=
      readMember?_memberText (proper member List.mem_cons_self) (by rintro _ ⟨⟩; rfl)
    rw [readMembers?.eq_def, read]
    simp only [later, Option.map_some]

theorem object_toList (members : List (String × Value)) :
    (object (members.map fun each => (each.1, each.2.json))).toList =
      '\x7b' :: ([','].intercalate (members.map fun each => (memberText each).toList) ++ ['\x7d']) := by
  rw [object, List.map_map, String.toList_append, String.toList_append, String.toList_intercalate,
    List.map_map]
  rfl

theorem readObject?_object {members : List (String × Value)} (proper : ∀ each ∈ members, each.2.IsProper) :
    readObject? (object (members.map fun each => (each.1, each.2.json))).toList = some members := by
  rw [object_toList]
  cases members with
  | nil => rfl
  | cons member members =>
    have read := readMembers?_intercalate proper
    rw [readObject?.eq_def]
    split
    next same =>
      have empty : readMembers? ['\x7d'] = none := by
        rw [readMembers?.eq_def]
        rfl
      rw [(List.cons.inj same).2] at read
      cases empty.symm.trans read
    next same =>
      rw [(List.cons.inj same).2] at read
      exact read
    next other => exact (other _ rfl).elim

/-! No control character stands in what is written. -/

theorem printable_escapeChar (c : Char) : ∀ each ∈ escapeChar c, 32 ≤ each.toNat := by
  have digits : ∀ code < 32, (hexText code).all (fun each => decide (32 ≤ each.toNat)) = true := by decide
  unfold escapeChar
  repeat' split
  iterate 7 exact forall_mem_of_all (by decide)
  next small =>
    simp only [List.forall_mem_append]
    exact ⟨forall_mem_of_all (by decide), forall_mem_of_all (digits c.toNat (by omega))⟩
  next small =>
    simp only [List.forall_mem_append]
    exact ⟨forall_mem_of_all (by decide), forall_mem_of_all (digits c.toNat small)⟩
  next large => exact List.forall_mem_singleton.mpr (Nat.le_of_not_lt large)

theorem printable_string (text : String) : ∀ c ∈ (string text).toList, 32 ≤ c.toNat := by
  rw [string, String.toList_ofList, List.forall_mem_append, List.forall_mem_cons]
  refine ⟨⟨by decide, fun c member => ?_⟩, forall_mem_of_all (by decide)⟩
  obtain ⟨each, -, escaped⟩ := List.mem_flatMap.mp member
  exact printable_escapeChar each c escaped

theorem printable_json {value : Value} (proper : value.IsProper) : ∀ c ∈ value.json.toList, 32 ≤ c.toNat := by
  cases value with
  | text value => exact printable_string value
  | null => exact forall_mem_of_all (by decide)
  | number literal =>
    intro c member
    have number := List.all_eq_true.mp proper.2 c member
    by_contra control
    have strange : ∀ code < 32, isNumberChar (Char.ofNat code) = false := by decide
    have other := strange c.toNat (Nat.lt_of_not_le control)
    rw [Char.ofNat_toNat, number] at other
    cases other

theorem mem_intercalate {mark c : Char} {texts : List (List Char)} (member : c ∈ [mark].intercalate texts) :
    c = mark ∨ ∃ text ∈ texts, c ∈ text := by
  induction texts with
  | nil => cases member
  | cons text texts ih =>
    cases texts with
    | nil =>
      rw [List.intercalate_singleton] at member
      exact .inr ⟨text, List.mem_cons_self, member⟩
    | cons next texts =>
      rw [List.intercalate_cons_cons, List.append_assoc, List.mem_append, List.mem_append,
        List.mem_singleton] at member
      rcases member with inside | same | later
      · exact .inr ⟨text, List.mem_cons_self, inside⟩
      · exact .inl same
      · refine (ih later).imp_right fun ⟨other, listed, inside⟩ => ?_
        exact ⟨other, List.mem_cons_of_mem text listed, inside⟩

theorem printable_object {members : List (String × Value)} (proper : ∀ each ∈ members, each.2.IsProper) :
    ∀ c ∈ (object (members.map fun each => (each.1, each.2.json))).toList, 32 ≤ c.toNat := by
  rw [object_toList, List.forall_mem_cons, List.forall_mem_append]
  refine ⟨by decide, fun c member => ?_, forall_mem_of_all (by decide)⟩
  rcases mem_intercalate member with rfl | ⟨text, listed, inside⟩
  · decide
  · obtain ⟨each, given, rfl⟩ := List.mem_map.mp listed
    have written : ∀ c ∈ (memberText each).toList, 32 ≤ c.toNat := by
      simp only [memberText, String.toList_append, List.forall_mem_append]
      exact ⟨⟨printable_string each.1, forall_mem_of_all (by decide)⟩, printable_json (proper each given)⟩
    exact written c inside

end PageLoad.Text.Json

import PageLoad.Html.Assets
import PageLoad.Proofs.Text.Utf8

/-!
Junk costs nothing but itself. However many bytes a piece of junk is made of, what is kept is what a
search byte by byte would keep: a character wherever one stands, and nothing of any other byte.
-/

namespace PageLoad.Text.Utf8

def OpensWithChar (bytes : List UInt8) : Prop := ∃ c, String.utf8EncodeChar c <+: bytes

/-- What is kept of a byte string that is searched from the front: the character that stands there, or
else nothing of a single byte, and so on behind it. -/
inductive Keeps : List UInt8 → List Char → Prop where
  | nil : Keeps [] []
  | character {c : Char} {rest : List UInt8} {text : List Char} (later : Keeps rest text) :
    Keeps (String.utf8EncodeChar c ++ rest) (c :: text)
  | dropped {b : UInt8} {rest : List UInt8} {text : List Char} (junk : ¬OpensWithChar (b :: rest))
    (later : Keeps rest text) : Keeps (b :: rest) text

theorem dropJunk_nil : dropJunk [] = [] := by
  rw [dropJunk, pieces]
  rfl

theorem dropJunk_character (c : Char) (rest : List UInt8) :
    dropJunk (String.utf8EncodeChar c ++ rest) = c :: dropJunk rest := by
  obtain ⟨lead, tail, bytes, read⟩ := readPiece_encode c
  rw [bytes, List.cons_append, dropJunk, pieces, read]
  rfl

theorem dropJunk_encode_append (text : List Char) (rest : List UInt8) :
    dropJunk (encode text ++ rest) = text ++ dropJunk rest := by
  induction text with
  | nil => rfl
  | cons c text ih =>
    rw [encode, List.flatMap_cons, List.append_assoc, dropJunk_character, ← encode, ih]
    rfl

theorem dropJunk_encode (text : List Char) : dropJunk (encode text) = text := by
  have kept := dropJunk_encode_append text []
  rwa [List.append_nil, dropJunk_nil, List.append_nil] at kept

theorem readPiece_isSome_iff {lead : UInt8} {rest : List UInt8} :
    (readPiece lead rest).1.isSome = true ↔ OpensWithChar (lead :: rest) := by
  constructor
  · intro found
    obtain ⟨c, read⟩ := Option.isSome_iff_exists.mp found
    exact ⟨c, _, encode_readPiece read⟩
  · rintro ⟨c, after, bytes⟩
    obtain ⟨first, tail, isFirst, read⟩ := readPiece_encode c
    rw [isFirst, List.cons_append] at bytes
    obtain ⟨rfl, rfl⟩ := List.cons.inj bytes
    rw [read]
    rfl

/-! A piece of junk may take several bytes at once. Those after the first begin no character, so
they are passed over all the same when they are looked at one by one. -/

theorem readPiece_continuation {b : UInt8} (continues : isContinuation b = true) (rest : List UInt8) :
    readPiece b rest = (none, rest) := by
  have range := isContinuation_iff.mp continues
  obtain ⟨one, two, three, four⟩ := lead_cases b
  unfold readPiece
  rw [if_neg (mt one.mp (by omega)), if_neg (mt two.mp (by omega)), if_neg (mt three.mp (by omega)),
    if_neg (mt four.mp (by omega))]

theorem dropJunk_of_none {lead : UInt8} {rest : List UInt8} (junk : (readPiece lead rest).1 = none) :
    dropJunk (lead :: rest) = dropJunk (readPiece lead rest).2 := by
  rw [dropJunk, pieces, junk]
  rfl

theorem dropJunk_continuations {skipped : List UInt8} (continues : ∀ b ∈ skipped, isContinuation b = true)
    (rest : List UInt8) : dropJunk (skipped ++ rest) = dropJunk rest := by
  induction skipped with
  | nil => rfl
  | cons b skipped ih =>
    have read := readPiece_continuation (continues b List.mem_cons_self) (skipped ++ rest)
    rw [List.cons_append, dropJunk_of_none (by rw [read]), read]
    exact ih fun other member => continues other (List.mem_cons_of_mem b member)

theorem dropJunk_dropped {b : UInt8} {rest : List UInt8} (junk : ¬OpensWithChar (b :: rest)) :
    dropJunk (b :: rest) = dropJunk rest := by
  have read : (readPiece b rest).1 = none :=
    Option.not_isSome_iff_eq_none.mp (mt readPiece_isSome_iff.mp junk)
  rw [dropJunk_of_none read]
  have piece := isPiece_readPiece b rest
  generalize readPiece b rest = answer at piece read
  cases piece with
  | one | two | three | four => cases read
  | junk continues => exact (dropJunk_continuations continues _).symm

theorem Keeps.eq_dropJunk {bytes : List UInt8} {text : List Char} (keeps : Keeps bytes text) :
    text = dropJunk bytes := by
  induction keeps with
  | nil => exact dropJunk_nil.symm
  | character later ih => rw [dropJunk_character, ih]
  | dropped junk later ih => rw [dropJunk_dropped junk, ih]

theorem keeps_dropJunk (bytes : List UInt8) : Keeps bytes (dropJunk bytes) := by
  -- The search goes on behind the whole character, so the induction is on the length.
  induction known : bytes.length using Nat.strongRecOn generalizing bytes with
  | ind length ih =>
    subst known
    cases bytes with
    | nil => exact dropJunk_nil ▸ .nil
    | cons b rest =>
      by_cases opens : OpensWithChar (b :: rest)
      · obtain ⟨c, after, whole⟩ := opens
        have shorter : after.length < (b :: rest).length := by
          have some := String.length_utf8EncodeChar c
          have positive := c.utf8Size_pos
          rw [← whole, List.length_append]
          omega
        rw [← whole, dropJunk_character]
        exact .character (ih _ shorter after rfl)
      · rw [dropJunk_dropped opens]
        exact .dropped opens (ih _ (Nat.lt_succ_self _) rest rfl)

theorem keeps_iff {bytes : List UInt8} {text : List Char} : Keeps bytes text ↔ text = dropJunk bytes :=
  ⟨Keeps.eq_dropJunk, fun same => same ▸ keeps_dropJunk bytes⟩

/-! Two byte strings, one after the other. -/

theorem encodeChar_continues {c : Char} {lead : UInt8} {tail : List UInt8}
    (bytes : String.utf8EncodeChar c = lead :: tail) : ∀ b ∈ tail, isContinuation b = true := by
  have continues (n : Nat) : isContinuation (UInt8.ofNat (n % 64 + 128)) = true := by
    rw [isContinuation_iff, toNat_byte _ (by omega)]
    omega
  unfold String.utf8EncodeChar at bytes
  dsimp only at bytes
  split at bytes
  · obtain ⟨rfl, rfl⟩ := List.cons.inj bytes
    intro b member
    cases member
  · split at bytes
    · obtain ⟨rfl, rfl⟩ := List.cons.inj bytes
      simp only [List.mem_singleton, forall_eq, continues]
    · split at bytes
      · obtain ⟨rfl, rfl⟩ := List.cons.inj bytes
        simp only [List.mem_cons, List.not_mem_nil, or_false, forall_eq_or_imp, forall_eq, continues, true_and]
      · obtain ⟨rfl, rfl⟩ := List.cons.inj bytes
        simp only [List.mem_cons, List.not_mem_nil, or_false, forall_eq_or_imp, forall_eq, continues, true_and]

/-- What no character in front of it can take in does not help a character to begin there. -/
theorem opensWithChar_of_append {b : UInt8} {rest second : List UInt8}
    (apart : ∀ b ∈ second.head?, isContinuation b = false)
    (opens : OpensWithChar (b :: rest ++ second)) : OpensWithChar (b :: rest) := by
  obtain ⟨c, isFront⟩ := opens
  refine ⟨c, ?_⟩
  rcases List.prefix_or_prefix_of_prefix isFront (List.prefix_append (b :: rest) second) with inside | ⟨extra, longer⟩
  · exact inside
  · cases extra with
    | nil =>
      refine ⟨[], ?_⟩
      rw [List.append_nil, ← longer, List.append_nil]
    | cons next extra =>
      -- The character would go on with the first byte of what follows.
      have continues := encodeChar_continues longer.symm next (by simp)
      rw [← longer, List.prefix_append_right_inj] at isFront
      obtain ⟨after, rfl⟩ := isFront
      rw [apart next rfl] at continues
      cases continues

/-- What is kept of two byte strings is what is kept of each, unless the second goes on with a character
that the first has begun. -/
theorem dropJunk_append (first : List UInt8) {second : List UInt8}
    (apart : ∀ b ∈ second.head?, isContinuation b = false) :
    dropJunk (first ++ second) = dropJunk first ++ dropJunk second := by
  have keeps := keeps_dropJunk first
  generalize dropJunk first = text at keeps
  induction keeps with
  | nil => rfl
  | character later ih => rw [List.append_assoc, dropJunk_character, ih, List.cons_append]
  | dropped junk later ih =>
    rw [← ih]
    exact dropJunk_dropped (mt (opensWithChar_of_append apart) junk)

theorem IsText.apart {bytes : List UInt8} (text : IsText bytes) :
    ∀ b ∈ bytes.head?, isContinuation b = false := by
  obtain ⟨characters, rfl⟩ := text
  cases characters with
  | nil => exact fun _ absent => nomatch absent
  | cons c rest =>
    obtain ⟨lead, tail, bytes, read⟩ := readPiece_encode c
    rw [encode, List.flatMap_cons, bytes]
    rintro b ⟨⟩
    refine Bool.eq_false_iff.mpr fun continues => ?_
    cases (read []).symm.trans (readPiece_continuation continues _)

end PageLoad.Text.Utf8

namespace PageLoad.Html
open Text Utf8

/-- What is kept of some bytes is text, and all of the bytes if they are text; it is what a search byte
by byte keeps, and it does not depend on what stands before or behind it. So junk between two texts
changes nothing about the assets of the page that they make. -/
theorem junk_costs_itself (base : Url) (bytes first second junk : List UInt8) :
    decode (encode (dropJunk bytes)) = .ok (dropJunk bytes) ∧
      (IsText bytes → encode (dropJunk bytes) = bytes) ∧
      ((∀ b ∈ second.head?, isContinuation b = false) →
        dropJunk (first ++ second) = dropJunk first ++ dropJunk second) ∧
      (∀ text, Keeps bytes text ↔ text = dropJunk bytes) ∧
      (IsText first → IsText second → dropJunk junk = [] →
        Assets.ofPage base (first ++ junk ++ second) = Assets.ofPage base (first ++ second)) := by
  refine ⟨decode_encode _, ?_, dropJunk_append first, fun _ => keeps_iff, ?_⟩
  · rintro ⟨text, rfl⟩
    rw [dropJunk_encode]
  · intro isFirst isSecond empty
    have same : dropJunk (first ++ junk ++ second) = dropJunk (first ++ second) := by
      obtain ⟨text, rfl⟩ := isFirst
      rw [List.append_assoc, dropJunk_encode_append, dropJunk_encode_append, dropJunk_append junk isSecond.apart,
        empty, List.nil_append]
    rw [Assets.ofPage, Assets.ofPage, same]

/-- An image whose source is interrupted by a byte that no character has and by the first two bytes of a
character of three. -/
theorem junk_costs_itself_truncated :
    let base : Url := ⟨"http", some ⟨"", "", .name "a.com", none⟩, .segments [""], none, none⟩
    let first := encode "<img src='logo".toList
    let second := encode "é.png'>".toList
    IsText first ∧ IsText second ∧ dropJunk [0xFF, 0xE2, 0x82] = [] ∧
      dropJunk ([0xFF, 0xE2, 0x82] ++ second) = dropJunk [0xFF, 0xE2, 0x82] ++ dropJunk second ∧
      encode (dropJunk first) = first ∧
      Assets.ofPage base (first ++ [0xFF, 0xE2, 0x82] ++ second) = Assets.ofPage base (first ++ second) := by
  intro base first second
  have isFirst : IsText first := ⟨_, rfl⟩
  have isSecond : IsText second := ⟨_, rfl⟩
  have empty : dropJunk [0xFF, 0xE2, 0x82] = [] := by decide +kernel
  obtain ⟨-, -, appended, -, -⟩ := junk_costs_itself base [] [0xFF, 0xE2, 0x82] second []
  obtain ⟨-, same, -, -, page⟩ := junk_costs_itself base first first second [0xFF, 0xE2, 0x82]
  exact ⟨isFirst, isSecond, empty, appended isSecond.apart, same isFirst, page isFirst isSecond empty⟩

end PageLoad.Html

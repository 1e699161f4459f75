import PageLoad.Text.Utf8

/-!
Text is read back from its bytes, and a character of ASCII is its own byte and no other.
-/

namespace PageLoad.Text.Utf8

theorem readPiece_one {lead : UInt8} (rest : List UInt8) (ascii : lead.toNat < 128) :
    readPiece lead rest = (some (Char.ofNat lead.toNat), rest) := by
  have low : lead < 0x80 := UInt8.lt_iff_toNat_lt.mpr ascii
  simp [readPiece, low]

theorem isContinuation_iff {b : UInt8} : isContinuation b = true ↔ 128 ≤ b.toNat ∧ b.toNat < 192 := by
  simp only [isContinuation, Bool.and_eq_true, decide_eq_true_eq, UInt8.le_iff_toNat_le]
  exact and_congr_right fun _ => Nat.lt_succ_iff.symm

/-- What keeps overlong forms, surrogates and what is too large out of the second byte. -/
theorem followsLead_iff {lead b : UInt8} :
    followsLead lead b = true ↔ 128 ≤ b.toNat ∧ b.toNat < 192 ∧
      (lead.toNat = 0xE0 → 160 ≤ b.toNat) ∧ (lead.toNat = 0xED → b.toNat < 160) ∧
      (lead.toNat = 0xF0 → 144 ≤ b.toNat) ∧ (lead.toNat = 0xF4 → b.toNat < 144) := by
  have known (n : UInt8) : lead = n ↔ lead.toNat = n.toNat := UInt8.toNat_inj.symm
  unfold followsLead
  simp only [known, UInt8.reduceToNat]
  split
  · simp only [Bool.and_eq_true, decide_eq_true_eq, UInt8.le_iff_toNat_le, UInt8.reduceToNat]
    omega
  · split
    · simp only [Bool.and_eq_true, decide_eq_true_eq, UInt8.le_iff_toNat_le, UInt8.reduceToNat]
      omega
    · split
      · simp only [Bool.and_eq_true, decide_eq_true_eq, UInt8.le_iff_toNat_le, UInt8.reduceToNat]
        omega
      · split
        · simp only [Bool.and_eq_true, decide_eq_true_eq, UInt8.le_iff_toNat_le, UInt8.reduceToNat]
          omega
        · rw [isContinuation_iff]
          omega

theorem lead_cases (lead : UInt8) :
    (lead < 0x80 ↔ lead.toNat < 128) ∧
      ((0xC2 ≤ lead && lead ≤ 0xDF) = true ↔ 194 ≤ lead.toNat ∧ lead.toNat < 224) ∧
      ((0xE0 ≤ lead && lead ≤ 0xEF) = true ↔ 224 ≤ lead.toNat ∧ lead.toNat < 240) ∧
      ((0xF0 ≤ lead && lead ≤ 0xF4) = true ↔ 240 ≤ lead.toNat ∧ lead.toNat < 245) := by
  have range (low high : UInt8) : (low ≤ lead && lead ≤ high) = true ↔
      low.toNat ≤ lead.toNat ∧ lead.toNat < high.toNat + 1 := by
    simp only [Bool.and_eq_true, decide_eq_true_eq, UInt8.le_iff_toNat_le, Nat.lt_succ_iff]
  exact ⟨UInt8.lt_iff_toNat_lt, range _ _, range _ _, range _ _⟩

theorem readPiece_two {lead second : UInt8} (rest : List UInt8)
    (first : 194 ≤ lead.toNat ∧ lead.toNat < 224) (next : isContinuation second = true) :
    readPiece lead (second :: rest) =
      (some (Char.ofNat (lead.toNat % 32 * 64 + payload second)), rest) := by
  obtain ⟨one, two, three, four⟩ := lead_cases lead
  unfold readPiece
  rw [if_neg (mt one.mp (by omega)), if_pos (two.mpr first)]
  simp [next]

theorem readPiece_three {lead second third : UInt8} (rest : List UInt8)
    (first : 224 ≤ lead.toNat ∧ lead.toNat < 240) (next : followsLead lead second = true)
    (last : isContinuation third = true) :
    readPiece lead (second :: third :: rest) =
      (some (Char.ofNat ((lead.toNat % 16 * 64 + payload second) * 64 + payload third)), rest) := by
  obtain ⟨one, two, three, four⟩ := lead_cases lead
  unfold readPiece
  rw [if_neg (mt one.mp (by omega)), if_neg (mt two.mp (by omega)), if_pos (three.mpr first)]
  simp [next, last]

theorem readPiece_four {lead second third fourth : UInt8} (rest : List UInt8)
    (first : 240 ≤ lead.toNat ∧ lead.toNat < 245) (next : followsLead lead second = true)
    (third_continues : isContinuation third = true) (last : isContinuation fourth = true) :
    readPiece lead (second :: third :: fourth :: rest) =
      (some (Char.ofNat (((lead.toNat % 8 * 64 + payload second) * 64 + payload third) * 64 +
        payload fourth)), rest) := by
  obtain ⟨one, two, three, four⟩ := lead_cases lead
  unfold readPiece
  rw [if_neg (mt one.mp (by omega)), if_neg (mt two.mp (by omega)),
    if_neg (mt three.mp (by omega)), if_pos (four.mpr first)]
  simp [next, third_continues, last]

/-- What may come of reading a piece: a character of one to four bytes, or junk. Behind its first byte,
junk has only bytes that may continue a character. -/
inductive IsPiece (lead : UInt8) : List UInt8 → Option Char × List UInt8 → Prop where
  | one {rest : List UInt8} (ascii : lead.toNat < 128) :
    IsPiece lead rest (some (Char.ofNat lead.toNat), rest)
  | two {second : UInt8} {rest : List UInt8} (first : 194 ≤ lead.toNat ∧ lead.toNat < 224)
    (next : isContinuation second = true) :
    IsPiece lead (second :: rest) (some (Char.ofNat (lead.toNat % 32 * 64 + payload second)), rest)
  | three {second third : UInt8} {rest : List UInt8} (first : 224 ≤ lead.toNat ∧ lead.toNat < 240)
    (next : followsLead lead second = true) (last : isContinuation third = true) :
    IsPiece lead (second :: third :: rest)
      (some (Char.ofNat ((lead.toNat % 16 * 64 + payload second) * 64 + payload third)), rest)
  | four {second third fourth : UInt8} {rest : List UInt8}
    (first : 240 ≤ lead.toNat ∧ lead.toNat < 245) (next : followsLead lead second = true)
    (continues : isContinuation third = true) (last : isContinuation fourth = true) :
    IsPiece lead (second :: third :: fourth :: rest)
      (some (Char.ofNat (((lead.toNat % 8 * 64 + payload second) * 64 + payload third) * 64 +
        payload fourth)), rest)
  | junk {skipped left : List UInt8} (continues : ∀ b ∈ skipped, isContinuation b = true) :
    IsPiece lead (skipped ++ left) (none, left)

theorem isContinuation_of_followsLead {lead b : UInt8} (follows : followsLead lead b = true) :
    isContinuation b = true := by
  have range := followsLead_iff.mp follows
  exact isContinuation_iff.mpr ⟨range.1, range.2.1⟩

theorem isPiece_readPiece (lead : UInt8) (rest : List UInt8) : IsPiece lead rest (readPiece lead rest) := by
  obtain ⟨one, two, three, four⟩ := lead_cases lead
  -- Junk of one byte, two and three.
  have alone (left : List UInt8) : IsPiece lead left (none, left) :=
    @IsPiece.junk lead [] left fun _ member => absurd member List.not_mem_nil
  have pair {second : UInt8} (next : followsLead lead second = true) (left : List UInt8) :
      IsPiece lead (second :: left) (none, left) :=
    @IsPiece.junk lead [second] left (by simpa using isContinuation_of_followsLead next)
  have triple {second third : UInt8} (next : followsLead lead second = true)
      (continues : isContinuation third = true) (left : List UInt8) :
      IsPiece lead (second :: third :: left) (none, left) :=
    @IsPiece.junk lead [second, third] left (by simpa using ⟨isContinuation_of_followsLead next, continues⟩)
  unfold readPiece
  split
  next ascii => exact .one (one.mp ascii)
  split
  next first =>
    split
    · split
      next next => exact .two (two.mp first) next
      next => exact alone _
    · exact alone _
  split
  next first =>
    split
    · split
      next next =>
        split
        · split
          next last => exact .three (three.mp first) next last
          next => exact pair next _
        · exact pair next _
      next => exact alone _
    · exact alone _
  split
  next first =>
    split
    · split
      next next =>
        split
        · split
          next continues =>
            split
            · split
              next last => exact .four (four.mp first) next continues last
              next => exact triple next continues _
            · exact triple next continues _
          next => exact pair next _
        · exact pair next _
      next => exact alone _
    · exact alone _
  next => exact alone _

theorem toNat_byte (n : Nat) (small : n < 256) : (UInt8.ofNat n).toNat = n :=
  UInt8.toNat_ofNat_of_lt' small

theorem toNat_valid (c : Char) : c.toNat < 0xD800 ∨ 0xDFFF < c.toNat ∧ c.toNat < 0x110000 := c.valid

theorem readPiece_encode (c : Char) :
    ∃ lead tail, String.utf8EncodeChar c = lead :: tail ∧
      ∀ rest, readPiece lead (tail ++ rest) = (some c, rest) := by
  have valid := toNat_valid c
  have same (n : Nat) (equal : n = c.toNat) : some (Char.ofNat n) = some c := by
    rw [equal, Char.ofNat_toNat]
  have continues (n : Nat) : isContinuation (UInt8.ofNat (n % 64 + 128)) = true := by
    rw [isContinuation_iff, toNat_byte _ (by omega)]
    omega
  have carried (n : Nat) : payload (UInt8.ofNat (n % 64 + 128)) = n % 64 := by
    rw [payload, toNat_byte _ (by omega)]
    omega
  have known : c.val.toNat = c.toNat := rfl
  unfold String.utf8EncodeChar
  simp only [known]
  by_cases one : c.toNat ≤ 0x7f
  · rw [if_pos one]
    refine ⟨_, _, rfl, fun rest => ?_⟩
    rw [List.nil_append, readPiece_one rest (by rw [toNat_byte _ (by omega)]; omega), toNat_byte _ (by omega),
      same _ rfl]
  rw [if_neg one]
  by_cases two : c.toNat ≤ 0x7ff
  · rw [if_pos two]
    refine ⟨_, _, rfl, fun rest => ?_⟩
    have first := toNat_byte (c.toNat / 64 % 32 + 192) (by omega)
    rw [List.cons_append, List.nil_append, readPiece_two rest (by rw [first]; omega) (continues _),
      first, carried, same _ (by omega)]
  rw [if_neg two]
  by_cases three : c.toNat ≤ 0xffff
  · rw [if_pos three]
    refine ⟨_, _, rfl, fun rest => ?_⟩
    have first := toNat_byte (c.toNat / 4096 % 16 + 224) (by omega)
    have next : followsLead (UInt8.ofNat (c.toNat / 4096 % 16 + 224))
        (UInt8.ofNat (c.toNat / 64 % 64 + 128)) = true := by
      rw [followsLead_iff, first, toNat_byte (c.toNat / 64 % 64 + 128) (by omega)]
      omega
    rw [List.cons_append, List.cons_append, List.nil_append,
      readPiece_three rest (by rw [first]; omega) next (continues _), first, carried, carried,
      same _ (by omega)]
  · rw [if_neg three]
    refine ⟨_, _, rfl, fun rest => ?_⟩
    have first := toNat_byte (c.toNat / 262144 % 8 + 240) (by omega)
    have next : followsLead (UInt8.ofNat (c.toNat / 262144 % 8 + 240))
        (UInt8.ofNat (c.toNat / 4096 % 64 + 128)) = true := by
      rw [followsLead_iff, first, toNat_byte (c.toNat / 4096 % 64 + 128) (by omega)]
      omega
    rw [List.cons_append, List.cons_append, List.cons_append, List.nil_append,
      readPiece_four rest (by rw [first]; omega) next (continues _) (continues _), first, carried,
      carried, carried, same _ (by omega)]

theorem pieces_encode (text : List Char) : pieces (encode text) = text.map some := by
  induction text with
  | nil => simp [encode, pieces]
  | cons c text ih =>
    obtain ⟨lead, tail, bytes, read⟩ := readPiece_encode c
    rw [encode, List.flatMap_cons, bytes, List.cons_append, pieces, read]
    exact congrArg (some c :: ·) ih

theorem flawFrom_encode (index : Nat) (text : List Char) : flawFrom index (encode text) = none := by
  induction text generalizing index with
  | nil => simp [encode, flawFrom]
  | cons c text ih =>
    obtain ⟨lead, tail, bytes, read⟩ := readPiece_encode c
    rw [encode, List.flatMap_cons, bytes, List.cons_append, flawFrom, read]
    exact ih _

theorem decode_encode (text : List Char) : decode (encode text) = .ok text := by
  rw [decode, flawFrom_encode, dropJunk, pieces_encode, List.filterMap_map]
  exact congrArg Except.ok List.filterMap_some

/-! What is read is written back. -/

theorem val_ofNat {n : Nat} (valid : n < 0xD800 ∨ 0xDFFF < n ∧ n < 0x110000) :
    (Char.ofNat n).val.toNat = n := by
  have valid : n.isValidChar := valid
  have same : Char.ofNat n = Char.ofNatAux n valid := dif_pos valid
  rw [same]
  rfl

theorem ofNat_eq_byte {n : Nat} {b : UInt8} (same : n = b.toNat) : UInt8.ofNat n = b :=
  same ▸ UInt8.ofNat_toNat

theorem encode_readPiece {lead : UInt8} {rest : List UInt8} {c : Char}
    (read : (readPiece lead rest).1 = some c) :
    String.utf8EncodeChar c ++ (readPiece lead rest).2 = lead :: rest := by
  have piece := isPiece_readPiece lead rest
  generalize readPiece lead rest = answer at piece read
  cases piece with
  | one ascii =>
    obtain rfl := Option.some.inj read
    have known : (Char.ofNat lead.toNat).val.toNat = lead.toNat := val_ofNat (by omega)
    unfold String.utf8EncodeChar
    simp only [known]
    rw [if_pos (by omega), ofNat_eq_byte rfl]
    rfl
  | @two second rest first next =>
    obtain rfl := Option.some.inj read
    have follows := isContinuation_iff.mp next
    generalize number : lead.toNat % 32 * 64 + payload second = n
    rw [payload] at number
    have known : (Char.ofNat n).val.toNat = n := val_ofNat (by omega)
    unfold String.utf8EncodeChar
    simp only [known]
    rw [if_neg (by omega), if_pos (by omega), ofNat_eq_byte (b := lead) (by omega),
      ofNat_eq_byte (b := second) (by omega)]
    rfl
  | @three second third rest first next last =>
    obtain rfl := Option.some.inj read
    have follows := followsLead_iff.mp next
    have ends := isContinuation_iff.mp last
    generalize number : (lead.toNat % 16 * 64 + payload second) * 64 + payload third = n
    rw [payload, payload] at number
    have known : (Char.ofNat n).val.toNat = n := val_ofNat (by omega)
    unfold String.utf8EncodeChar
    simp only [known]
    rw [if_neg (by omega), if_neg (by omega), if_pos (by omega), ofNat_eq_byte (b := lead) (by omega),
      ofNat_eq_byte (b := second) (by omega), ofNat_eq_byte (b := third) (by omega)]
    rfl
  | @four second third fourth rest first next continues last =>
    obtain rfl := Option.some.inj read
    have follows := followsLead_iff.mp next
    have goesOn := isContinuation_iff.mp continues
    have ends := isContinuation_iff.mp last
    generalize number :
      ((lead.toNat % 8 * 64 + payload second) * 64 + payload third) * 64 + payload fourth = n
    rw [payload, payload, payload] at number
    have known : (Char.ofNat n).val.toNat = n := val_ofNat (by omega)
    unfold String.utf8EncodeChar
    simp only [known]
    rw [if_neg (by omega), if_neg (by omega), if_neg (by omega), ofNat_eq_byte (b := lead) (by omega),
      ofNat_eq_byte (b := second) (by omega), ofNat_eq_byte (b := third) (by omega),
      ofNat_eq_byte (b := fourth) (by omega)]
    rfl
  | junk continues => cases read

theorem encode_dropJunk {bytes : List UInt8} {index : Nat} (flawless : flawFrom index bytes = none) :
    encode (dropJunk bytes) = bytes := by
  fun_induction flawFrom index bytes with
  | case1 index => simp [dropJunk, pieces, encode]
  | case2 index lead rest c read ih =>
    have whole : dropJunk (lead :: rest) = c :: dropJunk (readPiece lead rest).2 := by
      rw [dropJunk, pieces, read]
      rfl
    rw [whole, encode, List.flatMap_cons, ← encode, ih flawless]
    exact encode_readPiece read
  | case3 => cases flawless
  | case4 => cases flawless

theorem encode_of_decode {bytes : List UInt8} {text : List Char} (decoded : decode bytes = .ok text) :
    encode text = bytes := by
  unfold decode at decoded
  split at decoded
  next => cases decoded
  next flawless =>
    obtain rfl := Except.ok.inj decoded
    exact encode_dropJunk flawless

def IsText (bytes : List UInt8) : Prop := ∃ text, encode text = bytes

theorem isText_iff {bytes : List UInt8} : IsText bytes ↔ ∃ text, decode bytes = .ok text := by
  constructor
  · rintro ⟨text, rfl⟩
    exact ⟨text, decode_encode text⟩
  · rintro ⟨text, decoded⟩
    exact ⟨text, encode_of_decode decoded⟩

theorem IsText.append {first second : List UInt8} (text : IsText first) (text' : IsText second) :
    IsText (first ++ second) := by
  obtain ⟨front, rfl⟩ := text
  obtain ⟨back, rfl⟩ := text'
  exact ⟨front ++ back, List.flatMap_append⟩

theorem isText_flatten {parts : List (List UInt8)} (texts : ∀ part ∈ parts, IsText part) :
    IsText parts.flatten := by
  induction parts with
  | nil => exact ⟨[], rfl⟩
  | cons part parts ih =>
    exact (texts part List.mem_cons_self).append
      (ih fun other member => texts other (List.mem_cons_of_mem _ member))

/-! The bytes of a string. -/

theorem toList_loop (bytes : ByteArray) (index : Nat) (done : List UInt8) :
    ByteArray.toList.loop bytes index done = done.reverse ++ bytes.data.toList.drop index := by
  fun_induction ByteArray.toList.loop bytes index done with
  | case1 index done present ih =>
    have inside : index < bytes.data.toList.length := present
    rw [ih, List.reverse_cons, List.append_assoc, List.drop_eq_getElem_cons inside]
    simp [ByteArray.get!, present]
  | case2 index done outside =>
    have outside : bytes.data.toList.length ≤ index := Nat.not_lt.mp outside
    rw [List.drop_of_length_le outside, List.append_nil]

theorem toUTF8_toList (text : String) : text.toUTF8.toList = encode text.toList := by
  have data (bytes : List UInt8) (done : ByteArray) :
      (List.toByteArray.loop bytes done).data.toList = done.data.toList ++ bytes := by
    induction bytes generalizing done with
    | nil => exact (List.append_nil _).symm
    | cons byte bytes ih =>
      refine (ih (done.push byte)).trans ?_
      rw [ByteArray.data_push, Array.toList_push, List.append_assoc, List.singleton_append]
  rw [String.toUTF8_eq_toByteArray, ← String.utf8Encode_toList, ByteArray.toList, toList_loop,
    List.utf8Encode, List.toByteArray, data]
  rfl

/-! Characters of ASCII. -/

theorem toNat_of_mem_encodeChar {c : Char} {b : UInt8} (member : b ∈ String.utf8EncodeChar c)
    (ascii : b.toNat < 128) : c.toNat = b.toNat := by
  have known : c.val.toNat = c.toNat := rfl
  have high (n : Nat) (large : 128 ≤ n) (small : n < 256) : b ≠ UInt8.ofNat n := by
    rintro rfl
    rw [toNat_byte n small] at ascii
    omega
  unfold String.utf8EncodeChar at member
  simp only [known] at member
  split at member
  · rw [List.mem_singleton.mp member, toNat_byte _ (by omega)]
  · exfalso
    split at member
    · simp only [List.mem_cons, List.not_mem_nil, or_false] at member
      rcases member with first | second
      · exact high _ (by omega) (by omega) first
      · exact high _ (by omega) (by omega) second
    · split at member
      · simp only [List.mem_cons, List.not_mem_nil, or_false] at member
        rcases member with first | second | third
        · exact high _ (by omega) (by omega) first
        · exact high _ (by omega) (by omega) second
        · exact high _ (by omega) (by omega) third
      · simp only [List.mem_cons, List.not_mem_nil, or_false] at member
        rcases member with first | second | third | fourth
        · exact high _ (by omega) (by omega) first
        · exact high _ (by omega) (by omega) second
        · exact high _ (by omega) (by omega) third
        · exact high _ (by omega) (by omega) fourth

theorem mem_encode {text : List Char} {b : UInt8} (member : b ∈ encode text)
    (ascii : b.toNat < 128) : Char.ofNat b.toNat ∈ text := by
  obtain ⟨c, inside, found⟩ := List.mem_flatMap.mp member
  rw [← toNat_of_mem_encodeChar found ascii, Char.ofNat_toNat]
  exact inside

theorem newline_not_mem_encode {text : List Char} (plain : '\n' ∉ text) : 0x0A ∉ encode text :=
  fun member => plain (mem_encode member (by decide))

theorem encode_newline (front back : List Char) :
    encode (front ++ '\n' :: back) = encode front ++ 0x0A :: encode back := by
  rw [encode, List.flatMap_append]
  rfl

theorem encode_ascii {text : List Char} (ascii : ∀ c ∈ text, c.toNat < 128) :
    encode text = text.map fun c => UInt8.ofNat c.toNat := by
  induction text with
  | nil => rfl
  | cons c rest ih =>
    have small : c.toNat ≤ 127 := Nat.le_of_lt_succ (ascii c List.mem_cons_self)
    have one : String.utf8EncodeChar c = [UInt8.ofNat c.toNat] := by
      unfold String.utf8EncodeChar
      exact if_pos small
    rw [encode, List.flatMap_cons, one, List.map_cons,
      ← ih fun other member => ascii other (List.mem_cons_of_mem _ member)]
    rfl

theorem readPiece_suffix (lead : UInt8) (rest : List UInt8) : (readPiece lead rest).2 <:+ rest := by
  have piece := isPiece_readPiece lead rest
  generalize readPiece lead rest = answer at piece
  cases piece with
  | one ascii => exact List.suffix_refl _
  | two first next => exact List.suffix_cons _ _
  | three first next last => exact (List.suffix_cons _ _).trans (List.suffix_cons _ _)
  | four first next continues last =>
    exact (List.suffix_cons _ _).trans ((List.suffix_cons _ _).trans (List.suffix_cons _ _))
  | junk continues => exact List.suffix_append _ _

theorem ofNat_eq_newline {n : Nat} (same : Char.ofNat n = '\n') : n = 10 := by
  by_cases valid : n.isValidChar
  · exact congrArg Char.toNat ((dif_pos valid).symm.trans same)
  · cases (dif_neg valid).symm.trans same

theorem readPiece_newline {lead : UInt8} {rest : List UInt8}
    (read : (readPiece lead rest).1 = some '\n') : lead = 0x0A := by
  have piece := isPiece_readPiece lead rest
  generalize readPiece lead rest = answer at piece read
  cases piece with
  | one ascii => exact UInt8.toNat_inj.mp (ofNat_eq_newline (Option.some.inj read))
  | two first next =>
    have small := ofNat_eq_newline (Option.some.inj read)
    omega
  | three first next last =>
    have range := followsLead_iff.mp next
    have small := ofNat_eq_newline (Option.some.inj read)
    rw [payload] at small
    omega
  | four first next continues last =>
    have range := followsLead_iff.mp next
    have small := ofNat_eq_newline (Option.some.inj read)
    rw [payload] at small
    omega
  | junk continues => cases read

theorem newline_of_mem_dropJunk {bytes : List UInt8} (member : '\n' ∈ dropJunk bytes) :
    0x0A ∈ bytes := by
  have piece : some '\n' ∈ pieces bytes := by simpa [dropJunk] using member
  clear member
  fun_induction pieces bytes with
  | case1 => cases piece
  | case2 lead rest ih =>
    rcases List.mem_cons.mp piece with first | later
    · rw [readPiece_newline first.symm]
      exact List.mem_cons_self
    · exact List.mem_cons_of_mem _ ((readPiece_suffix lead rest).subset (ih later))

end PageLoad.Text.Utf8

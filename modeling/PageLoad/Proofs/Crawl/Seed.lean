import PageLoad.Proofs.Crawl.Run
import PageLoad.Proofs.Url.Text

/-!
A seed is read back from its rank and the text of its URL. That text opens with a scheme, so it is never
taken for a host.
-/

namespace PageLoad.Crawl
open PageLoad.Text

theorem opensWithScheme_iff {text : List Char} :
    opensWithScheme text = true ↔ ∃ name rest, Url.IsScheme name ∧ text = name ++ ':' :: '/' :: '/' :: rest := by
  constructor
  · intro opens
    unfold opensWithScheme at opens
    split at opens
    next first more =>
      rw [Bool.and_eq_true] at opens
      obtain ⟨letter, follows⟩ := opens
      split at follows
      next _ rest found =>
        refine ⟨first :: more.takeWhile Url.isSchemeChar, rest,
          ⟨first, _, rfl, letter, fun c member => List.mem_takeWhile_imp member⟩, ?_⟩
        rw [List.cons_append, ← found, List.takeWhile_append_dropWhile]
      next => cases follows
    next => cases opens
  · rintro ⟨name, rest, scheme, rfl⟩
    have ⟨_, dropped⟩ := scheme.split ('/' :: '/' :: rest)
    obtain ⟨first, more, rfl, letter, inside⟩ := scheme
    have behind : (more ++ ':' :: '/' :: '/' :: rest).dropWhile Url.isSchemeChar = ':' :: '/' :: '/' :: rest := by
      rw [List.dropWhile_append_of_pos inside, List.dropWhile_cons_of_neg (by decide)]
    simp only [opensWithScheme, List.cons_append, letter, behind, Bool.and_self]

/-- A host or URL is read as a URL with an authority: where it has no scheme, one is put in front. -/
theorem seedUrl_placed {target : String} {url : Url} (read : seedUrl target = .ok url) : url.IsPlaced := by
  have candidate {text : String} (opens : opensWithScheme text.toList = true)
      (parsed : Url.parse text = .ok url) : url.IsPlaced := by
    obtain ⟨name, rest, scheme, whole⟩ := opensWithScheme_iff.mp opens
    exact Url.parse_placed scheme whole parsed
  unfold seedUrl at read
  dsimp only at read
  split at read
  next found parsed =>
    cases read
    split at parsed
    next opens => exact candidate opens parsed
    next =>
      refine candidate ?_ parsed
      rw [String.toList_append]
      exact opensWithScheme_iff.mpr ⟨"http".toList, "www.".toList ++ target.toList,
        ⟨'h', "ttp".toList, rfl, rfl, forall_mem_of_all rfl⟩, rfl⟩
  next => cases read

theorem seedUrl_of_opens {text : String} (opens : opensWithScheme text.toList = true) {url : Url}
    (parsed : Url.parse text = .ok url) : seedUrl text = .ok url := by
  simp only [seedUrl, opens, if_true, parsed]

theorem isBlank_of_isGraphic {c : Char} (graphic : Url.IsGraphic c) : isBlank c = false := by
  unfold Url.IsGraphic at graphic
  simp only [isBlank, Bool.or_eq_false_iff, Bool.and_eq_false_iff, decide_eq_false_iff_not]
  omega

theorem trim_placed {url : Url} (placed : url.IsPlaced) : trim url.text.toList = url.text.toList := by
  refine trim_of_bare ?_ fun c last => isBlank_of_isGraphic (placed.endsGraphic c last)
  obtain ⟨rest, opens⟩ := placed.opens
  obtain ⟨first, more, isName, letter, -⟩ := placed.scheme
  rw [opens, isName]
  rintro c ⟨⟩
  exact isBlank_of_isGraphic (Url.isGraphic_of_isAlpha letter)

theorem Seed.parse_of_split {line rank : String} {target : List Char} (markless : ',' ∉ rank.toList)
    (split : line.toList = rank.toList ++ ',' :: target) (given : trim target ≠ []) {url : Url}
    (read : seedUrl (String.ofList (trim target)) = .ok url) : Seed.parse line = .ok ⟨rank, url⟩ := by
  have ⟨front, back⟩ := split_at_first markless target
  rw [Seed.parse, split, back]
  dsimp only
  split
  next empty => exact (given empty).elim
  next => simp only [read, front, bind, Except.bind, pure, Except.pure, String.ofList_toList]

theorem Seed.parse_placed {line : String} {seed : Seed} (parsed : Seed.parse line = .ok seed) :
    seed.url.IsPlaced := by
  unfold Seed.parse at parsed
  split at parsed
  next => cases parsed
  next =>
    split at parsed
    next => cases parsed
    next =>
      simp only [bind, Except.bind, pure, Except.pure] at parsed
      split at parsed
      next => cases parsed
      next url read =>
        cases parsed
        exact seedUrl_placed read

/-- A seed whose URL is what its own text is parsed as is read back from its rank and that text. Whatever
its line held, the text of its URL opens with a scheme. -/
theorem Seed.parse_stable {line : String} {seed : Seed} (parsed : Seed.parse line = .ok seed) :
    opensWithScheme seed.url.text.toList = true ∧
      (Url.parse seed.url.text = .ok seed.url →
        Seed.parse (seed.rank ++ "," ++ seed.url.text) = .ok seed) := by
  have placed := Seed.parse_placed parsed
  have bare := trim_placed placed
  obtain ⟨rest, whole⟩ := placed.opens
  have opens : opensWithScheme seed.url.text.toList = true :=
    opensWithScheme_iff.mpr ⟨seed.url.scheme.toList, rest, placed.scheme, whole⟩
  obtain ⟨-, -, markless⟩ := Seed.parse_split parsed
  refine ⟨opens, fun reparsed => ?_⟩
  have split : (seed.rank ++ "," ++ seed.url.text).toList = seed.rank.toList ++ ',' :: seed.url.text.toList := by
    rw [String.toList_append, String.toList_append, List.append_assoc]
    rfl
  have given : trim seed.url.text.toList ≠ [] := by
    rw [bare, whole]
    simp
  refine Seed.parse_of_split markless split given ?_
  rw [bare, String.ofList_toList]
  exact seedUrl_of_opens opens reparsed

/-- A line with blanks around its rank, and whose target has an upper-case scheme, the port that goes
without saying, commas and another URL. -/
theorem Seed.parse_stable_commas :
    let url : Url := ⟨"http", some ⟨"", "", .ipv6 [0, 0, 0, 0, 0, 0, 0, 1], none⟩, .segments ["a,b"],
      some "u=://c,d", none⟩
    Seed.parse " 4 ,\tHTTP://[::1]:80/a,b?u=://c,d " = .ok ⟨" 4 ", url⟩ ∧
      url.text = "http://[::1]/a,b?u=://c,d" ∧ opensWithScheme url.text.toList = true ∧
      Url.parse url.text = .ok url ∧ Seed.parse (" 4 " ++ "," ++ url.text) = .ok ⟨" 4 ", url⟩ := by
  intro url
  have text : url.text = "http://[::1]/a,b?u=://c,d" := by decide +kernel
  have parsed : Seed.parse " 4 ,\tHTTP://[::1]:80/a,b?u=://c,d " = .ok ⟨" 4 ", url⟩ := by decide +kernel
  have reparsed : Url.parse url.text = .ok url := by decide +kernel
  obtain ⟨opens, again⟩ := Seed.parse_stable parsed
  exact ⟨parsed, text, opens, reparsed, again reparsed⟩

end PageLoad.Crawl

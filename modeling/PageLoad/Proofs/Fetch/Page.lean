import PageLoad.Fetch.Page
import PageLoad.Http.Field
import PageLoad.Proofs.Text.Utf8
import Mathlib.Data.List.TakeWhile

/-!
The content types of pages are names without commas or line breaks, whatever their headers say.
-/

namespace PageLoad.Fetch
open Http Text

theorem trim_subset (text : List Char) : trim text ⊆ text := by
  intro c member
  rw [trim, dropEndWhile, List.mem_reverse] at member
  have inner := List.mem_reverse.mp ((List.dropWhile_suffix _).subset member)
  exact (List.dropWhile_suffix _).subset inner

theorem eq_of_toLower {c d : Char} (early : d.toNat < 65) (same : c.toLower = d) : c = d := by
  delta Char.toLower at same
  split at same
  · rename_i upper
    have range : 65 ≤ c.val.toNat ∧ c.val.toNat ≤ 90 := upper
    have code : (c.val + 32).toNat = d.toNat := congrArg Char.toNat same
    rw [UInt32.toNat_add] at code
    change (c.val.toNat + 32) % 4294967296 = d.toNat at code
    omega
  · exact same

theorem newline_not_mem_valueText {value : List UInt8} {text : List Char}
    (known : valueText? value = some text) : '\n' ∉ text := by
  rw [valueText?] at known
  split at known
  · rename_i visible
    cases known
    intro member
    obtain ⟨b, present, same⟩ := List.mem_map.mp member
    have feed : b = 10 := UInt8.toNat_inj.mp (Utf8.ofNat_eq_newline same)
    have seen := List.all_eq_true.mp visible b present
    rw [feed] at seen
    exact absurd seen (by decide)
  · cases known

theorem contentTypeOf_plain (value : Option (List UInt8)) :
    ∀ c ∈ (contentTypeOf (value.bind valueText?)).toList, c ≠ ',' ∧ c ≠ '\n' := by
  have plain : ',' ∉ fallbackContentType.toList ∧ '\n' ∉ fallbackContentType.toList := by decide
  have fallback : ∀ c ∈ fallbackContentType.toList, c ≠ ',' ∧ c ≠ '\n' := fun c member =>
    ⟨fun same => plain.1 (same ▸ member), fun same => plain.2 (same ▸ member)⟩
  cases known : value.bind valueText? with
  | none => exact fallback
  | some header =>
    have plain : '\n' ∉ header := by
      obtain ⟨bytes, _, text⟩ := Option.bind_eq_some_iff.mp known
      exact newline_not_mem_valueText text
    have essence : ∀ c ∈ (mimeEssence header).toList, c ≠ ',' ∧ c ≠ '\n' := by
      intro c member
      rw [mimeEssence, String.toList_ofList] at member
      obtain ⟨d, trimmed, rfl⟩ := List.mem_map.mp member
      have entry := trim_subset _ trimmed
      have early := List.mem_takeWhile_imp entry
      have inside := (List.takeWhile_prefix _).subset entry
      constructor
      · intro same
        rw [eq_of_toLower (by decide) same] at early
        simp at early
      · intro same
        rw [eq_of_toLower (by decide) same] at inside
        exact plain inside
    rw [contentTypeOf, Option.map_some]
    split
    · exact fallback
    · exact fallback
    · rename_i found _ same
      cases same
      exact essence

end PageLoad.Fetch

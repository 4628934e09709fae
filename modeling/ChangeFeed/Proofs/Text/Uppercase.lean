import ChangeFeed.Text.Uppercase
import Mathlib.Data.List.Basic

/-!
# Text: Upper case

Few characters outside ASCII have an upper-case form of their own here, and it consists of a few
letters. Whoever compares ASCII letters only finds no keyword that is not found in upper case.

## Main results

* `uppercase_uppercase`: an upper-case text is its own upper-case form.
* `uppercase_of_map_toUpper`: a keyword in ASCII letters, in any case, is that keyword.
* `map_toUpper_of_uppercase`: some keywords can be spelled in ASCII letters only.
-/

namespace ChangeFeed.Text

variable {c d : Char}

/-! ## Characters -/

/-- A decidable property of the ASCII characters. -/
theorem forall_ascii {P : Char → Prop} (h : ∀ n < 128, P (Char.ofNat n)) (hc : c.toNat < 128) :
    P c := by
  have hread := h c.toNat hc
  rwa [Char.ofNat_toNat] at hread

/-- Letters outside ASCII are left alone. -/
theorem toUpper_of_not_ascii (hc : 128 ≤ c.toNat) : c.toUpper = c := by
  unfold Char.toUpper
  split
  · next hlower =>
    simp only [UInt32.le_iff_toNat_le] at hlower
    have : c.toNat ≤ 122 := hlower.2
    omega
  · rfl

/-- A character has its ASCII form, or one that consists of a few letters. -/
theorem uppercaseOf_cases (c : Char) :
    uppercaseOf c = [c.toUpper] ∨ ∀ d ∈ uppercaseOf c, d ∈ ['S', 'I', 'F', 'L', 'T'] := by
  unfold uppercaseOf
  split
  case h_11 => exact .inl rfl
  all_goals exact .inr (by simp)

/-- Where the upper-case form is another one than in ASCII, one of three letters is in it. -/
theorem uppercaseOf_eq_or (c : Char) :
    uppercaseOf c = [c.toUpper] ∨ ∃ d ∈ ['S', 'I', 'F'], d ∈ uppercaseOf c := by
  unfold uppercaseOf
  split
  case h_11 => exact .inl rfl
  all_goals exact .inr (by simp)

theorem uppercaseOf_of_letter (hd : d ∈ ['S', 'I', 'F', 'L', 'T']) : uppercaseOf d = [d] := by
  simp only [List.mem_cons, List.not_mem_nil, or_false] at hd
  rcases hd with rfl | rfl | rfl | rfl | rfl <;> rfl

/-- The upper-case form of a character is its own upper-case form. -/
theorem flatMap_uppercaseOf (c : Char) :
    (uppercaseOf c).flatMap uppercaseOf = uppercaseOf c := by
  -- A character becomes a single one, or letters that are in capitals already.
  rcases uppercaseOf_cases c with hsingle | hletters
  · have hagain : uppercaseOf c.toUpper = [c.toUpper] := by
      by_cases hc : c.toNat < 128
      · exact forall_ascii (P := fun c => uppercaseOf c.toUpper = [c.toUpper]) (by decide) hc
      · rw [toUpper_of_not_ascii (Nat.le_of_not_lt hc)] at hsingle ⊢
        exact hsingle
    rw [hsingle, List.flatMap_singleton, hagain]
  · generalize uppercaseOf c = letters at hletters
    induction letters with
    | nil => rfl
    | cons e es ih =>
      rw [List.flatMap_cons, uppercaseOf_of_letter (hletters e List.mem_cons_self),
        ih fun f hf => hletters f (List.mem_cons_of_mem e hf)]
      rfl

/-- Only a space becomes a space. -/
theorem space_mem_uppercaseOf (h : ' ' ∈ uppercaseOf c) : c = ' ' := by
  rcases uppercaseOf_cases c with hsingle | hletters
  · rw [hsingle, List.mem_singleton] at h
    by_cases hc : c.toNat < 128
    · exact forall_ascii (P := fun c => ' ' = c.toUpper → c = ' ') (by decide) hc h
    · rw [h, toUpper_of_not_ascii (Nat.le_of_not_lt hc)]
  · exact absurd (hletters _ h) (by decide)

/-! ## Texts -/

theorem toList_uppercase (s : String) : (uppercase s).toList = s.toList.flatMap uppercaseOf :=
  String.toList_ofList

/-- An upper-case text is its own upper-case form. -/
theorem uppercase_uppercase (s : String) : uppercase (uppercase s) = uppercase s := by
  rw [String.ext_iff, toList_uppercase, toList_uppercase, List.flatMap_assoc]
  simp only [flatMap_uppercaseOf]

/-- A word without a space has none in capitals either. -/
theorem not_mem_space_uppercase {s : String} (h : ' ' ∉ s.toList) :
    ' ' ∉ (uppercase s).toList := by
  rw [toList_uppercase, List.mem_flatMap]
  rintro ⟨c, hc, hspace⟩
  exact h (space_mem_uppercaseOf hspace ▸ hc)

theorem uppercaseOf_of_ascii (hc : c.toNat < 128) : uppercaseOf c = [c.toUpper] :=
  forall_ascii (P := fun c => uppercaseOf c = [c.toUpper]) (by decide) hc

/-! ## Two ways to compare -/

variable {s keyword : String}

/-- Letter by letter is enough if every character has a single capital. -/
theorem uppercase_eq_map (h : ∀ c ∈ s.toList, uppercaseOf c = [c.toUpper]) :
    uppercase s = s.map Char.toUpper := by
  rw [String.ext_iff, toList_uppercase, String.toList_map, List.map_eq_flatMap]
  exact List.flatMap_congr h

/-- There are only ASCII characters in the text. -/
def isAscii (s : String) : Bool := s.toList.all fun c => c.toNat < 128

/-- A word that spells a keyword in ASCII letters spells it in any case. -/
theorem uppercase_of_map_toUpper (hascii : isAscii keyword = true)
    (h : s.map Char.toUpper = keyword) : uppercase s = keyword := by
  rw [uppercase_eq_map, h]
  intro c hc
  refine uppercaseOf_of_ascii (Nat.lt_of_not_le fun hhigh => ?_)
  have hmem : c.toUpper ∈ keyword.toList := by
    rw [← h, String.toList_map]
    exact List.mem_map_of_mem hc
  rw [toUpper_of_not_ascii hhigh] at hmem
  exact Nat.not_lt.2 hhigh (of_decide_eq_true (List.all_eq_true.1 hascii c hmem))

/-- A keyword without certain letters is spelled in ASCII letters in any case. -/
theorem map_toUpper_of_uppercase (hkeyword : ∀ d ∈ ['S', 'I', 'F'], d ∉ keyword.toList)
    (h : uppercase s = keyword) : s.map Char.toUpper = keyword := by
  rw [← h, uppercase_eq_map]
  intro c hc
  refine (uppercaseOf_eq_or c).resolve_right ?_
  rintro ⟨d, hd, hmem⟩
  refine hkeyword d hd ?_
  rw [← h, toList_uppercase]
  exact List.mem_flatMap.2 ⟨c, hc, hmem⟩

end ChangeFeed.Text

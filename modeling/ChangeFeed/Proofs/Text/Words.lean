import ChangeFeed.Proofs.Text.Uppercase
import ChangeFeed.Text.Blank
import Mathlib.Data.List.TakeWhile

/-!
# Text: Words

Words are written with a space between them. As long as no word holds a space itself, what a text
begins with can be told word by word.

## Main results

* `prefix_join_iff`: a text begins with given words exactly if its first words are these, and the
  last of them may run on.
* `dropWhile_join`: the blanks in front of a text are cut off word by word.
* `prefix_trimChars_iff`: cutting off the blanks at the end changes no beginning.
-/

namespace ChangeFeed.Text

/-! ## Joined words -/

/-- The characters of words with a space between them. -/
def join (ws : List String) : List Char := (" ".intercalate ws).toList

variable {w v last : String} {ws front : List String}

@[simp] theorem join_nil : join [] = [] := rfl

@[simp] theorem join_singleton (w : String) : join [w] = w.toList := by
  rw [join, String.intercalate_singleton]

/-- A space stands between words. -/
theorem join_cons_cons (w v : String) (ws : List String) :
    join (w :: v :: ws) = w.toList ++ ' ' :: join (v :: ws) := by
  rw [join, String.intercalate_cons_cons, String.append_assoc, String.toList_append,
    String.toList_append]
  rfl

/-- Behind a word stands a space or nothing. -/
theorem join_cons (w : String) (ws : List String) :
    ∃ rest, join (w :: ws) = w.toList ++ rest ∧ ∀ c ∈ rest.head?, c = ' ' := by
  cases ws with
  | nil => exact ⟨[], by simp, by simp⟩
  | cons v ws => exact ⟨_, join_cons_cons w v ws, by simp⟩

/-- A text begins with its first words. -/
theorem join_prefix_append (ws rest : List String) : join ws <+: join (ws ++ rest) := by
  -- The last word is followed by whatever the rest brings, and any other one by the next word.
  induction ws with
  | nil => exact List.nil_prefix
  | cons w ws ih =>
    cases ws with
    | nil =>
      obtain ⟨more, hjoin, -⟩ := join_cons w rest
      rw [List.singleton_append, join_singleton, hjoin]
      exact List.prefix_append _ _
    | cons v ws =>
      rw [List.cons_append, List.cons_append, join_cons_cons, join_cons_cons]
      exact (List.prefix_append_right_inj _).2 ((List.prefix_cons_inj _).2 ih)

/-- The upper-case form of a text consists of those of its words. -/
theorem uppercase_intercalate (ws : List String) :
    uppercase (" ".intercalate ws) = " ".intercalate (ws.map uppercase) := by
  have hjoin : (join ws).flatMap uppercaseOf = join (ws.map uppercase) := by
    -- The induction is on the words, and the space between two of them is its own upper-case form.
    induction ws with
    | nil => rfl
    | cons w ws ih =>
      cases ws with
      | nil => rw [join_singleton, List.map_singleton, join_singleton, toList_uppercase]
      | cons v ws =>
        rw [List.map_cons, List.map_cons, join_cons_cons, join_cons_cons, List.flatMap_append,
          List.flatMap_cons, ih, toList_uppercase, List.map_cons]
        rfl
  rw [String.ext_iff, toList_uppercase]
  exact hjoin

/-! ## Beginnings -/

/-- A word begins a text exactly if it begins what stands in front of the first space. -/
theorem prefix_append_iff {cs ds rest : List Char} (hcs : ' ' ∉ cs)
    (hrest : ∀ c ∈ rest.head?, c = ' ') : cs <+: ds ++ rest ↔ cs <+: ds := by
  refine ⟨fun h => ?_, fun h => h.trans (List.prefix_append ds rest)⟩
  rcases List.prefix_or_prefix_of_prefix h (List.prefix_append ds rest) with hbegins | ⟨more, rfl⟩
  · exact hbegins
  · -- What goes beyond `ds` would begin with a space.
    have hmore : more <+: rest := (List.prefix_append_right_inj ds).1 h
    cases more with
    | nil => simp
    | cons c more =>
      obtain ⟨behind, rfl⟩ := hmore
      have hspace : c = ' ' := hrest c rfl
      exact absurd (by simp [hspace]) hcs

/-- Texts whose first words hold no space are compared word by word. -/
theorem append_space_prefix_iff {cs ds more rest : List Char} (hcs : ' ' ∉ cs) (hds : ' ' ∉ ds) :
    cs ++ ' ' :: more <+: ds ++ ' ' :: rest ↔ cs = ds ∧ more <+: rest := by
  -- Neither has a space before the one that is shown, so the two spaces stand at the same place.
  induction cs generalizing ds with
  | nil =>
    cases ds with
    | nil => simp [List.cons_prefix_cons]
    | cons d ds =>
      have hd : ' ' ≠ d := by rintro rfl; simp at hds
      simp [List.cons_prefix_cons, hd]
  | cons c cs ih =>
    rw [List.mem_cons, not_or] at hcs
    cases ds with
    | nil => simp [List.cons_prefix_cons, Ne.symm hcs.1]
    | cons d ds =>
      rw [List.mem_cons, not_or] at hds
      rw [List.cons_append, List.cons_append, List.cons_prefix_cons, ih hcs.2 hds.2,
        List.cons.injEq, and_assoc]

/-- **Word by word**: a text begins with some words exactly if these are its first words, where the
last of them need only be the beginning of one. -/
theorem prefix_join_iff (hfront : ∀ h ∈ front, ' ' ∉ h.toList) (hlast : ' ' ∉ last.toList)
    (hne : last ≠ "") (hws : ∀ w ∈ ws, ' ' ∉ w.toList) :
    join (front ++ [last]) <+: join ws ↔
      ∃ w rest, ws = front ++ w :: rest ∧ last.toList <+: w.toList := by
  induction front generalizing ws with
  | nil =>
    cases ws with
    | nil => simpa using hne
    | cons w ws =>
      obtain ⟨rest, hjoin, hrest⟩ := join_cons w ws
      rw [List.nil_append, join_singleton, hjoin, prefix_append_iff hlast hrest]
      simp
  | cons h front ih =>
    have hh : ' ' ∉ h.toList := hfront h List.mem_cons_self
    obtain ⟨j, js, hmore⟩ : ∃ j js, front ++ [last] = j :: js :=
      List.exists_cons_of_ne_nil (by simp)
    have hjoin : join (h :: front ++ [last]) = h.toList ++ ' ' :: join (front ++ [last]) := by
      rw [List.cons_append, hmore, join_cons_cons]
    rw [hjoin]
    match ws with
    | [] => simp
    | [w] =>
      -- There is only one word, which holds no space.
      have hw : ' ' ∉ w.toList := hws w List.mem_cons_self
      have hleft : ¬ h.toList ++ ' ' :: join (front ++ [last]) <+: w.toList := fun hbegins =>
        hw (hbegins.mem (by simp))
      simp [hleft]
    | w :: v :: ws =>
      have hw : ' ' ∉ w.toList := hws w List.mem_cons_self
      rw [join_cons_cons, append_space_prefix_iff hh hw,
        ih (fun k hk => hfront k (List.mem_cons_of_mem h hk))
          (fun u hu => hws u (List.mem_cons_of_mem w hu)), String.toList_inj]
      constructor
      · rintro ⟨rfl, u, rest, heq, hbegins⟩
        exact ⟨u, rest, by rw [heq, List.cons_append], hbegins⟩
      · rintro ⟨u, rest, heq, hbegins⟩
        obtain ⟨rfl, hbehind⟩ := List.cons.inj heq
        exact ⟨rfl, u, rest, hbehind, hbegins⟩

/-! ## Blanks -/

/-- The words without the blanks in front of the first. -/
def trimFront : List String → List String
  | [] => []
  | w :: ws =>
    if w.toList.all isBlank then trimFront ws
    else String.ofList (w.toList.dropWhile isBlank) :: ws

/-- To cut off blanks in front means to cut off blank words, and the blanks of the next one. -/
theorem dropWhile_join (ws : List String) : (join ws).dropWhile isBlank = join (trimFront ws) := by
  induction ws with
  | nil => rfl
  | cons w ws ih =>
    rw [trimFront]
    split
    · next hblank =>
      -- The word is cut off with the space behind it, which is a blank as well.
      have hblank : ∀ c ∈ w.toList, isBlank c = true := List.all_eq_true.1 hblank
      cases ws with
      | nil =>
        rw [join_singleton, List.dropWhile_eq_nil_iff.2 hblank]
        rfl
      | cons v ws => rw [join_cons_cons, List.dropWhile_append_of_pos hblank, ← ih]; rfl
    · next hblank =>
      have hword : (w.toList.dropWhile isBlank).isEmpty = false := by
        rw [List.isEmpty_eq_false_iff, ne_eq, List.dropWhile_eq_nil_iff]
        simpa using hblank
      cases ws with
      | nil => rw [join_singleton, join_singleton, String.toList_ofList]
      | cons v ws =>
        rw [join_cons_cons, join_cons_cons, String.toList_ofList, List.dropWhile_append, hword]
        rfl

/-- No space comes into a word by that. -/
theorem not_mem_space_trimFront (h : ∀ w ∈ ws, ' ' ∉ w.toList) :
    ∀ w ∈ trimFront ws, ' ' ∉ w.toList := by
  induction ws with
  | nil => exact h
  | cons w ws ih =>
    have hws : ∀ v ∈ ws, ' ' ∉ v.toList := fun v hv => h v (List.mem_cons_of_mem w hv)
    rw [trimFront]
    split
    · exact ih hws
    · rw [List.forall_mem_cons, String.toList_ofList]
      exact ⟨fun hspace => h w List.mem_cons_self ((List.dropWhile_sublist _).mem hspace), hws⟩

/-- What is cut off at the end are blanks. -/
theorem trimChars_append (cs : List Char) :
    ∃ blanks, trimChars cs ++ blanks = cs.dropWhile isBlank ∧ ∀ c ∈ blanks, isBlank c = true := by
  refine ⟨((cs.dropWhile isBlank).reverse.takeWhile isBlank).reverse, ?_, fun c hc => ?_⟩
  · rw [trimChars, ← List.reverse_append, List.takeWhile_append_dropWhile, List.reverse_reverse]
  · exact List.mem_takeWhile_imp (List.mem_reverse.1 hc)

/-- A beginning that does not end with a blank is left when blanks are cut off at the end. -/
theorem prefix_trimChars_iff {cs ds : List Char} (h : ds.getLast?.all (!isBlank ·) = true) :
    ds <+: trimChars cs ↔ ds <+: cs.dropWhile isBlank := by
  obtain ⟨blanks, hcs, hblanks⟩ := trimChars_append cs
  rw [← hcs]
  refine ⟨fun hbegins => hbegins.trans (List.prefix_append _ blanks), fun hbegins => ?_⟩
  rcases List.prefix_or_prefix_of_prefix hbegins (List.prefix_append _ blanks) with
    hinside | ⟨more, rfl⟩
  · exact hinside
  · rcases List.eq_nil_or_concat more with rfl | ⟨more, c, rfl⟩
    · simp
    · -- The last character would be one of the blanks.
      have hmore := (List.prefix_append_right_inj _).1 hbegins
      have hc : isBlank c = true := hblanks c (hmore.mem (by simp))
      rw [List.concat_eq_append, ← List.append_assoc, List.getLast?_concat] at h
      simp [hc] at h

end ChangeFeed.Text

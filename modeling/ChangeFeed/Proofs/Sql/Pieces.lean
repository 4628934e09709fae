import ChangeFeed.Proofs.Sql.Lexing

/-!
# SQL: Written pieces

The pieces that a statement is written with, blanks, marks, words, numbers and names between
backticks, are each split off by one step. What may stand behind a piece is a condition on the rest.

## Main results

* `splits_word`, `splits_number`: a word and a number end where no part of a word follows.
* `splits_backticks`: whatever stands between backticks, commas, quotes and keywords among it, is
  one name.
-/

namespace ChangeFeed.Sql.Lexer

variable {c : Char} {cs rest : List Char} {ts : List Token}

/-! ## Blanks and marks -/

theorem splits_space (h : Splits rest ts) : Splits (' ' :: rest) ts :=
  .skip (by cases rest <;> rfl) h

theorem splits_comma (h : Splits rest ts) : Splits (',' :: rest) (.symbol "," :: ts) :=
  .token (by cases rest <;> rfl) h

theorem splits_opening (h : Splits rest ts) : Splits ('(' :: rest) (.symbol "(" :: ts) :=
  .token (by cases rest <;> rfl) h

theorem splits_closing (h : Splits rest ts) : Splits (')' :: rest) (.symbol ")" :: ts) :=
  .token (by cases rest <;> rfl) h

/-! ## What stands behind a word -/

/-- What follows does not belong to a word or a number, nor does it make a letter in front of it the
mark of a quoted text. -/
def EndsWord (rest : List Char) : Prop :=
  ∀ d ∈ rest.head?, continuesWord d = false ∧ d ≠ '\'' ∧ d ≠ '"' ∧ d ≠ '.'

theorem endsWord_nil : EndsWord [] := by simp [EndsWord]

theorem endsWord_cons (h : continuesWord c = false ∧ c ≠ '\'' ∧ c ≠ '"' ∧ c ≠ '.') :
    EndsWord (c :: rest) := by
  simpa [EndsWord] using h

/-- Neither a part of a word nor what follows the word is a quote. -/
theorem head?_append_ne_quote (hcs : ∀ d ∈ cs, continuesWord d = true) (hrest : EndsWord rest) :
    ∀ d ∈ (cs ++ rest).head?, d ≠ '\'' ∧ d ≠ '"' := by
  cases cs with
  | nil => exact fun d hd => ⟨(hrest d hd).2.1, (hrest d hd).2.2.1⟩
  | cons d cs =>
    rintro _ ⟨⟩
    have hd := hcs d List.mem_cons_self
    constructor
    · rintro rfl; exact absurd hd (by decide)
    · rintro rfl; exact absurd hd (by decide)

/-- A run of characters of a class ends where a character stands that is not of that class. -/
theorem span_of_ends {p : Char → Bool} (hcs : ∀ d ∈ cs, p d = true)
    (hrest : ∀ d ∈ rest.head?, p d = false) :
    (cs ++ rest).takeWhile p = cs ∧ (cs ++ rest).dropWhile p = rest := by
  rw [List.takeWhile_append_of_pos hcs, List.dropWhile_append_of_pos hcs]
  cases rest with
  | nil => simp
  | cons d rest => simp [hrest d rfl]

/-- A letter or a digit that begins a piece is none of the marks of longer pieces. -/
theorem step_of_continues (hc : c.isAlpha = true ∨ c.isDigit = true)
    (hcs : ∀ d ∈ cs.head?, d ≠ '\'' ∧ d ≠ '"') : step c cs = plain c cs := by
  unfold step
  split
  case h_9 quote more _ _ _ _ _ _ _ _ =>
    obtain ⟨hsingle, hdouble⟩ := hcs quote rfl
    simp [marked, hsingle, hdouble]
  case h_10 => rfl
  -- None of the marks is a letter or a digit.
  all_goals exact absurd hc (by decide)

/-! ## Words -/

/-- No letter is a digit. -/
theorem isDigit_of_isAlpha (hc : c.isAlpha = true) : c.isDigit = false := by
  -- Letters and digits are told by their numbers, which do not overlap.
  delta Char.isAlpha Char.isUpper Char.isLower at hc
  simp [Char.isDigit, UInt32.le_iff_toNat_le] at hc ⊢
  omega

/-- No operator begins with a letter. -/
theorem find?_operators (hc : c.isAlpha = true) (cs : List Char) :
    operators.find? (fun op => op.toList.isPrefixOf (c :: cs)) = none := by
  have hfirst : ∀ op ∈ operators, (op.toList.head?.any fun o => !o.isAlpha) = true := by decide
  refine List.find?_eq_none.2 fun op hop hbegins => ?_
  have hop := hfirst op hop
  cases htext : op.toList with
  | nil => simp [htext] at hop
  | cons o os =>
    rw [htext] at hop hbegins
    have ho : o = c := (List.cons_prefix_cons.1 (List.isPrefixOf_iff_prefix.1 hbegins)).1
    simp [ho, hc] at hop

/-- A letter begins a word, as no operator and no mark begins with one. -/
theorem symbol_of_isAlpha (hc : c.isAlpha = true) : symbol c cs = word [c] cs := by
  have hmarks : marks.contains c = false := by
    have hall : marks.all (fun m => !m.isAlpha) = true := by decide
    rw [List.contains_eq_mem, decide_eq_false_iff_not]
    intro hmem
    have hmark := List.all_eq_true.1 hall c hmem
    rw [hc] at hmark
    cases hmark
  have hstarts : startsWord c = true := by simp [startsWord, hc]
  simp only [symbol, find?_operators hc, hmarks, hstarts, Bool.false_eq_true, if_false, if_true]

/-- A letter, and only parts of words behind it. -/
def isPlainWord (w : String) : Bool :=
  match w.toList with
  | c :: cs => c.isAlpha && cs.all continuesWord
  | [] => false

/-- A word of letters is read as such. -/
theorem splits_word {w : String} (hw : isPlainWord w = true) (hrest : EndsWord rest)
    (h : Splits rest ts) : Splits (w.toList ++ rest) (.word w false :: ts) := by
  unfold isPlainWord at hw
  split at hw
  · next c cs htext =>
    obtain ⟨hc, hcs⟩ := Bool.and_eq_true_iff.1 hw
    have hcs : ∀ d ∈ cs, continuesWord d = true := by simpa using hcs
    rw [htext, List.cons_append]
    refine .token ?_ h
    have hdigit : c.isDigit = false := isDigit_of_isAlpha hc
    have hperiod : c ≠ '.' := by rintro rfl; exact absurd hc (by decide)
    have hspan := span_of_ends hcs fun d hd => (hrest d hd).1
    -- The first letter rules out everything else that might begin here.
    rw [step_of_continues (.inl hc) (head?_append_ne_quote hcs hrest), plain,
      if_neg (by simp [hdigit, hperiod]), symbol_of_isAlpha hc, word, hspan.1, hspan.2,
      List.singleton_append, ← htext, String.ofList_toList]
  · cases hw

/-! ## Numbers -/

/-- What ends a word has no exponent. -/
theorem exponent_of_endsWord (hrest : EndsWord rest) : exponent rest = ([], false) := by
  cases rest with
  | nil => rfl
  | cons d rest =>
    -- The mark of an exponent would be a part of a word.
    have hd := (hrest d rfl).1
    have hlower : d ≠ 'e' := by rintro rfl; exact absurd hd (by decide)
    have hupper : d ≠ 'E' := by rintro rfl; exact absurd hd (by decide)
    simp [exponent, hlower, hupper]

/-- Digits are read as a number, if nothing goes on behind them. -/
theorem number_append {digits : List Char} (hdigits : ∀ d ∈ digits, d.isDigit = true)
    (hrest : EndsWord rest) :
    number (digits ++ rest) = .ok (some (.number (String.ofList digits) false), rest) := by
  -- What stands behind the digits goes on neither as a number nor as a word.
  have hdigit : ∀ d ∈ rest.head?, d.isDigit = false := fun d hd => by
    have := (hrest d hd).1
    simp_all [continuesWord]
  have htail : rest.takeWhile continuesWord = [] := by
    have hread := (span_of_ends (List.forall_mem_nil _) fun d hd => (hrest d hd).1).1
    rwa [List.nil_append] at hread
  have hperiod : digits ≠ ['.'] := by
    rintro rfl
    exact absurd (hdigits '.' List.mem_cons_self) (by decide)
  rw [number, (span_of_ends hdigits hdigit).1, (span_of_ends hdigits hdigit).2]
  simp only
  split
  · next more => exact absurd (hrest 'x' rfl).1 (by decide)
  · split
    · exact absurd rfl (hrest '.' rfl).2.2.2
    · simp [hperiod, exponent_of_endsWord hrest, numberOrWord, htail]

/-- The text of a number is read as that number. -/
theorem splits_number (n : Nat) (hrest : EndsWord rest) (h : Splits rest ts) :
    Splits ((toString n).toList ++ rest) (.number (toString n) false :: ts) := by
  -- The first digit is told apart, as it decides what kind of token begins.
  have htext : (toString n).toList = Nat.toDigits 10 n := Nat.toList_repr
  have hdigits : ∀ d ∈ (toString n).toList, d.isDigit = true := fun d hd =>
    Nat.isDigit_of_mem_toDigits (by decide) (by decide) (htext ▸ hd)
  have hread := number_append hdigits hrest
  rw [String.ofList_toList] at hread
  obtain ⟨d, ds, hcons⟩ : ∃ d ds, (toString n).toList = d :: ds :=
    List.exists_cons_of_ne_nil (htext ▸ Nat.toDigits_ne_nil)
  rw [hcons] at hdigits hread ⊢
  have hd := hdigits d List.mem_cons_self
  have hds : ∀ e ∈ ds, continuesWord e = true := fun e he => by
    simp [continuesWord, hdigits e (List.mem_cons_of_mem d he)]
  rw [List.cons_append]
  refine .token ?_ h
  rw [step_of_continues (.inr hd) (head?_append_ne_quote hds hrest), plain,
    if_pos (by simp [hd])]
  exact hread

/-! ## Names between backticks -/

/-- Up to the closing backtick everything is part of the name. -/
theorem quotedText_backticks {name : List Char} (hname : '\x60' ∉ name)
    (hrest : rest.head? ≠ some '\x60') :
    quotedText '\x60' false (name ++ '\x60' :: rest) = some (name, rest) := by
  -- The induction is on the name; the backtick behind it is not doubled, as the rest begins with
  -- none.
  induction name with
  | nil =>
    cases rest with
    | nil => rfl
    | cons d rest =>
      have hd : d ≠ '\x60' := by simpa using hrest
      simp [quotedText, hd]
  | cons d name ih =>
    obtain ⟨hd, hname⟩ : d ≠ '\x60' ∧ '\x60' ∉ name := by
      simpa [eq_comm] using hname
    obtain ⟨e, more, hmore⟩ : ∃ e more, name ++ '\x60' :: rest = e :: more :=
      List.exists_cons_of_ne_nil (by simp)
    rw [List.cons_append, hmore, quotedText, if_neg hd, ← hmore, ih hname]
    rfl

/-- A name between backticks is read as such. -/
theorem splits_backticks {name : String} (hname : '\x60' ∉ name.toList)
    (hrest : rest.head? ≠ some '\x60') (h : Splits rest ts) :
    Splits ('\x60' :: (name.toList ++ '\x60' :: rest)) (.word name true :: ts) := by
  refine .token ?_ h
  simp only [step, quotedIdentifier, List.drop_succ_cons, List.drop_zero,
    quotedText_backticks hname hrest, String.ofList_toList]

end ChangeFeed.Sql.Lexer

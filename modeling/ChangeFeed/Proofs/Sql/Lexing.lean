import ChangeFeed.Sql.Lexer
import Mathlib.Data.List.TakeWhile

/-!
# SQL: Splitting a text into tokens

The lexer takes one step after the other and needs no more steps than there are characters. What a
step yields is stated once, for every piece that a text can be made of.

## Main results

* `yields_step`: a step leaves fewer characters behind, and reads no space into an unquoted word.
* `tokens_eq_ok_iff`: a text has the tokens that it splits into step by step.
* `not_mem_space_of_tokens`: no unquoted word of a text holds a space.
-/

namespace ChangeFeed.Sql

namespace Lexer

/-! ## What a reader yields -/

/-- What holds of whatever is read: at most `n` characters are left, and an unquoted word holds no
space. -/
def Yields (n : Nat) (r : Read) : Prop :=
  ∀ t rest, r = .ok (t, rest) →
    rest.length ≤ n ∧ ∀ text, t = some (.word text false) → ' ' ∉ text.toList

variable {n : Nat} {cs rest : List Char}

theorem yields_error (e : LexFault × List Char) : Yields n (.error e) := by
  rintro t rest ⟨⟩

/-- A blank, or a token that is no unquoted word. -/
theorem yields_other {t : Option Token} (hrest : rest.length ≤ n)
    (ht : ∀ text, t ≠ some (.word text false)) : Yields n (.ok (t, rest)) := by
  rintro _ _ ⟨⟩
  exact ⟨hrest, fun text h => absurd h (ht text)⟩

/-- An unquoted word must not hold a space. -/
theorem yields_bareWord {text : List Char} (hrest : rest.length ≤ n) (hspace : ' ' ∉ text) :
    Yields n (.ok (some (.word (String.ofList text) false), rest)) := by
  rintro _ _ ⟨⟩
  refine ⟨hrest, ?_⟩
  rintro _ ⟨⟩
  rwa [String.toList_ofList]

theorem length_dropWhile_le (p : Char → Bool) (cs : List Char) :
    (cs.dropWhile p).length ≤ cs.length :=
  (List.dropWhile_sublist p).length_le

/-! ## Quoted pieces and comments -/

/-- A quoted text is shorter than what it was read from. -/
theorem length_of_quotedText {quote : Char} {escapes : Bool} {content : List Char}
    (h : quotedText quote escapes cs = some (content, rest)) : rest.length < cs.length := by
  -- Wherever the reader goes on, at least one character has been taken.
  fun_induction quotedText quote escapes cs generalizing content with
  | case1 => simp at h
  | case2 => simp_all
  | case3 => simp at h
  | case4 cs ih =>
    obtain ⟨_, hread, heq⟩ := Option.map_eq_some_iff.1 h
    cases heq
    have := ih hread
    simp only [List.length_cons]
    omega
  | case5 => simp_all
  | case6 c d cs _ _ ih =>
    obtain ⟨_, hread, heq⟩ := Option.map_eq_some_iff.1 h
    cases heq
    have := ih hread
    simp only [List.length_cons]
    omega
  | case7 c d cs _ _ ih =>
    obtain ⟨_, hread, heq⟩ := Option.map_eq_some_iff.1 h
    cases heq
    have := ih hread
    simp only [List.length_cons] at this ⊢
    omega

/-- A text between quotes is no unquoted word. -/
theorem yields_text {make : String → Token} (hmake : ∀ s text, make s ≠ .word text false)
    (quote : Char) (escapes : Bool) (hn : cs.length ≤ n + 1) :
    Yields n (text make quote escapes cs) := by
  unfold text
  split
  · next content rest hread =>
    have := length_of_quotedText hread
    rw [List.length_drop] at this
    exact yields_other (by omega) fun text h => hmake _ text (Option.some.inj h)
  · exact yields_error _

/-- Nor is a name between backticks. -/
theorem yields_quotedIdentifier (hn : cs.length ≤ n + 1) : Yields n (quotedIdentifier cs) := by
  unfold quotedIdentifier
  split
  · next content rest hread =>
    have := length_of_quotedText hread
    rw [List.length_drop] at this
    exact yields_other (by omega) (by simp)
  · exact yields_error _

/-- A comment ends with its line and yields nothing. -/
theorem yields_lineComment (hn : cs.length ≤ n) : Yields n (lineComment cs) := by
  refine yields_other ?_ (by simp)
  have := length_dropWhile_le (· ≠ '\n') cs
  rw [List.length_drop]
  omega

/-- What stands behind a block comment is a part of it. -/
theorem length_of_afterBlock (h : afterBlock cs = some rest) : rest.length ≤ cs.length := by
  fun_induction afterBlock cs with
  | case1 cs =>
    cases h
    simp only [List.length_cons]
    omega
  | case2 c cs _ ih =>
    have := ih h
    simp only [List.length_cons]
    omega
  | case3 => cases h

/-- A block comment yields nothing, or is not ended. -/
theorem yields_blockComment (hn : cs.length ≤ n) : Yields n (blockComment cs) := by
  unfold blockComment
  split
  · next rest hread => exact yields_other (Nat.le_trans (length_of_afterBlock hread) hn) (by simp)
  · exact yields_error _

/-! ## Words and numbers -/

/-- What is taken as long as it is no space holds no space. -/
theorem not_mem_space_takeWhile {p : Char → Bool} (hp : p ' ' = false) (cs : List Char) :
    ' ' ∉ cs.takeWhile p := by
  intro hmem
  have hspace := List.mem_takeWhile_imp hmem
  rw [hp] at hspace
  cases hspace

/-- A word goes on up to what is no part of it, and so at least up to a space. -/
theorem yields_word {first : List Char} (hn : cs.length ≤ n) (hspace : ' ' ∉ first) :
    Yields n (word first cs) := by
  refine yields_bareWord (Nat.le_trans (length_dropWhile_le _ cs) hn) ?_
  rw [List.mem_append]
  exact not_or.2 ⟨hspace, not_mem_space_takeWhile (by decide) cs⟩

/-- Digits are a number, or the beginning of a word. -/
theorem yields_numberOrWord {mantissa : List Char} (hn : cs.length ≤ n)
    (hspace : ' ' ∉ mantissa) : Yields n (numberOrWord mantissa cs) := by
  unfold numberOrWord
  simp only
  split
  · exact yields_other hn (by simp)
  · exact yields_word hn hspace

/-- A letter behind a number tells that it is long. -/
theorem yields_longNumber (digits : List Char) (hn : cs.length ≤ n) :
    Yields n (longNumber digits cs) := by
  unfold longNumber
  split
  · exact yields_other (by simp only [List.length_cons] at hn; omega) (by simp)
  · exact yields_other hn (by simp)

/-- A number whose digits have been read, up to its exponent. -/
theorem yields_behindMantissa {mantissa : List Char} (hn : cs.length ≤ n)
    (hspace : ' ' ∉ mantissa) :
    Yields n (if mantissa = ['.'] then .ok (some (.symbol "."), cs)
      else
        match exponent cs with
        | ([], _) => numberOrWord mantissa cs
        | (mark, true) => longNumber (mantissa ++ mark) (cs.drop mark.length)
        | (_, false) => longNumber mantissa cs) := by
  -- The mantissa holds no space, so it may become a word as well.
  split
  · exact yields_other hn (by simp)
  · split
    · exact yields_numberOrWord hn hspace
    · exact yields_longNumber _ (by rw [List.length_drop]; omega)
    · exact yields_longNumber _ hn

/-- A number may begin with a digit or with a period. -/
theorem yields_number {c : Char} (hc : c.isDigit = true ∨ c = '.') (hn : cs.length ≤ n) :
    Yields n (number (c :: cs)) := by
  -- Whatever comes first, the digits and the period are behind the first character.
  have hrest : ((c :: cs).dropWhile Char.isDigit).length ≤ n ∨
      (c :: cs).dropWhile Char.isDigit = '.' :: cs := by
    rcases hc with hc | rfl
    · rw [List.dropWhile_cons_of_pos hc]
      exact .inl (Nat.le_trans (length_dropWhile_le _ cs) hn)
    · exact .inr rfl
  have hwhole := not_mem_space_takeWhile (p := Char.isDigit) (by decide) (c :: cs)
  unfold number
  -- Only these two facts are needed about the digits in front and what stands behind them.
  generalize (c :: cs).takeWhile Char.isDigit = whole at hwhole
  generalize (c :: cs).dropWhile Char.isDigit = rest at hrest
  simp only
  split
  · next more =>
    have hmore : more.length ≤ n := by
      rcases hrest with hrest | hrest
      · simp only [List.length_cons] at hrest
        omega
      · cases hrest
    exact yields_other (Nat.le_trans (length_dropWhile_le _ more) hmore) (by simp)
  · have hplain : rest.length ≤ n → Yields n _ := fun h => yields_behindMantissa h hwhole
    cases rest with
    | nil => exact hplain (by simp)
    | cons d more =>
      by_cases hd : d = '.'
      · subst hd
        have hmore : more.length ≤ n := by
          rcases hrest with hrest | hrest
          · simp only [List.length_cons] at hrest
            omega
          · cases hrest
            exact hn
        refine yields_behindMantissa (Nat.le_trans (length_dropWhile_le _ more) hmore) ?_
        simp [hwhole, not_mem_space_takeWhile (p := Char.isDigit) (by decide) more]
      · have hlength : (d :: more).length ≤ n := by
          rcases hrest with hrest | hrest
          · exact hrest
          · exact absurd (List.cons.inj hrest).1 hd
        simp only [List.cons.injEq, hd, false_and, imp_false, not_false_eq_true, implies_true]
        exact hplain hlength

/-- What stands behind an at sign decides whether it begins a word. -/
theorem yields_atSign (hn : cs.length ≤ n) : Yields n (atSign cs) := by
  -- Two of the cases give a word, and in both it begins with a character that is not a blank.
  unfold atSign
  split
  · exact yields_other (by simp) (by simp)
  · exact yields_other (by simp only [List.length_cons] at hn; omega) (by simp)
  · exact yields_other (by simp only [List.length_cons] at hn; omega) (by simp)
  · simp only [List.length_cons] at hn
    split
    · exact yields_other (by simp) (by simp)
    · exact yields_other (by simp only [List.length_cons] at hn ⊢; omega) (by simp)
    · next c more hc =>
      refine yields_word (by simp only [List.length_cons] at hn; omega) ?_
      have : c ≠ ' ' := by rintro rfl; exact hc rfl
      simp [this.symm]
  · next c rest _ _ _ =>
    split
    · exact yields_other hn (by simp)
    · next hc =>
      refine yields_word (by simp only [List.length_cons] at hn; omega) ?_
      have : c ≠ ' ' := by rintro rfl; simp at hc
      simp [this.symm]

/-- A character that nothing else is made of is an operator, a mark or the beginning of a word. -/
theorem yields_symbol (c : Char) (hn : cs.length ≤ n) : Yields n (symbol c cs) := by
  -- The one character that is given as a word by itself is known not to be a blank.
  unfold symbol
  split
  · exact yields_other (by rw [List.length_drop]; omega) (by simp)
  · split
    · exact yields_other hn (by simp)
    · split
      · next hc =>
        refine yields_word hn ?_
        rw [List.mem_singleton]
        rintro rfl
        exact absurd hc (by decide)
      · split
        · exact yields_other hn (by simp)
        · exact yields_other hn (by simp)

/-! ## Steps -/

/-- A character is a digit, or whatever it is by itself. -/
theorem yields_plain (c : Char) (hn : cs.length ≤ n) : Yields n (plain c cs) := by
  unfold plain
  split
  · next hc => exact yields_number (by simpa using hc) hn
  · exact yields_symbol c hn

/-- A letter may mark the quoted text behind it. -/
theorem yields_marked (c quote : Char) (hn : cs.length ≤ n) : Yields n (marked c quote cs) := by
  have hquoted : cs.length ≤ n + 1 := Nat.le_succ_of_le hn
  unfold marked
  split
  · exact yields_text (by simp) quote false hquoted
  · split
    · exact yields_text (by simp) '\'' true hquoted
    · split
      · exact yields_text (by simp) '\'' true hquoted
      · exact yields_plain c hn

/-- **One step**: it leaves at most what stood behind the first character, and reads no space into
an unquoted word. -/
theorem yields_step (c : Char) (cs : List Char) : Yields cs.length (step c cs) := by
  -- One case for each way in which a token can begin.
  unfold step
  split
  · exact yields_text (by simp) '\'' true (by simp)
  · exact yields_text (by simp) '"' true (by simp)
  · exact yields_quotedIdentifier (by simp)
  · exact yields_atSign (Nat.le_refl _)
  · exact yields_other (length_dropWhile_le _ _) (by simp)
  · exact yields_lineComment (Nat.le_refl _)
  · exact yields_lineComment (by simp only [List.length_cons]; omega)
  · exact yields_blockComment (by simp only [List.length_cons]; omega)
  · exact yields_marked c _ (Nat.le_refl _)
  · exact yields_plain c (Nat.le_refl _)

/-! ## Whole texts -/

/-- The characters split into the tokens, one step after the other. -/
inductive Splits : List Char → List Token → Prop where
  | done : Splits [] []
  | skip {c : Char} {cs rest : List Char} {ts : List Token} :
      step c cs = .ok (none, rest) → Splits rest ts → Splits (c :: cs) ts
  | token {c : Char} {cs rest : List Char} {t : Token} {ts : List Token} :
      step c cs = .ok (some t, rest) → Splits rest ts → Splits (c :: cs) (t :: ts)

/-- As many steps as there are characters are enough. -/
theorem run_of_splits {ts : List Token} (h : Splits cs ts) :
    ∀ fuel, cs.length ≤ fuel → run fuel cs = .ok ts := by
  -- Every step leaves fewer characters, so the fuel outlasts the text.
  induction h with
  | done => intro fuel _; cases fuel <;> rfl
  | skip hstep _ ih =>
    rintro (_ | fuel) hfuel
    · simp at hfuel
    · have hshorter := (yields_step _ _ _ _ hstep).1
      simp only [List.length_cons, Nat.add_le_add_iff_right] at hfuel
      rw [run, hstep]
      exact ih fuel (Nat.le_trans hshorter hfuel)
  | token hstep _ ih =>
    rintro (_ | fuel) hfuel
    · simp at hfuel
    · have hshorter := (yields_step _ _ _ _ hstep).1
      simp only [List.length_cons, Nat.add_le_add_iff_right] at hfuel
      rw [run, hstep]
      simp only [ih fuel (Nat.le_trans hshorter hfuel)]
      rfl

/-- Whatever the text is split into, it is split into step by step. -/
theorem splits_of_run {fuel : Nat} {ts : List Token} (hfuel : cs.length ≤ fuel)
    (h : run fuel cs = .ok ts) : Splits cs ts := by
  -- The fuel is enough, as every step leaves a shorter text.
  induction fuel generalizing cs ts with
  | zero =>
    obtain rfl := List.eq_nil_of_length_eq_zero (Nat.le_zero.1 hfuel)
    cases h
    exact .done
  | succ fuel ih =>
    cases cs with
    | nil =>
      cases h
      exact .done
    | cons c cs =>
      simp only [List.length_cons, Nat.add_le_add_iff_right] at hfuel
      rw [run] at h
      split at h
      · cases h
      · next rest hstep =>
        have hshorter := (yields_step _ _ _ _ hstep).1
        exact .skip hstep (ih (Nat.le_trans hshorter hfuel) h)
      · next t rest hstep =>
        have hshorter := (yields_step _ _ _ _ hstep).1
        cases hrest : run fuel rest with
        | error e =>
          rw [hrest] at h
          cases h
        | ok us =>
          rw [hrest] at h
          cases h
          exact .token hstep (ih (Nat.le_trans hshorter hfuel) hrest)

/-- No unquoted word of a text holds a space. -/
theorem Splits.not_mem_space {ts : List Token} (h : Splits cs ts) {text : String}
    (hmem : Token.word text false ∈ ts) : ' ' ∉ text.toList := by
  induction h with
  | done => cases hmem
  | skip _ _ ih => exact ih hmem
  | token hstep _ ih =>
    rcases List.mem_cons.1 hmem with rfl | hmem
    · exact (yields_step _ _ _ _ hstep).2 text rfl
    · exact ih hmem

end Lexer

/-! ## Tokens of a text -/

/-- **Splitting**: a text has the tokens that it splits into step by step. -/
theorem tokens_eq_ok_iff {sql : String} {ts : List Token} :
    tokens sql = .ok ts ↔ Lexer.Splits sql.toList ts := by
  refine ⟨fun h => ?_, fun h => ?_⟩
  · simp only [tokens] at h
    split at h
    · next hrun =>
      cases h
      exact Lexer.splits_of_run (Nat.le_refl _) hrun
    · cases h
  · simp only [tokens, Lexer.run_of_splits h _ (Nat.le_refl _)]

/-- No unquoted word of a text holds a space. -/
theorem not_mem_space_of_tokens {sql : String} {ts : List Token} (h : tokens sql = .ok ts)
    {text : String} (hmem : Token.word text false ∈ ts) : ' ' ∉ text.toList :=
  (tokens_eq_ok_iff.1 h).not_mem_space hmem

end ChangeFeed.Sql

import ChangeFeed.Sql.Parse.DataType

/-!
# SQL: Reading tokens forward

What the small readers do with the tokens ahead, so that a longer reader is followed step by step
without opening them again. A keyword is looked for in the first token only, so it is enough to know
which keyword that token spells, if any.

## Main results

* `bind_of_ok`, `of_bind_ok`: one reader after the other, forward and backward.
* `keywords?_of_ne`: a keyword that is not ahead leaves the tokens as they are.
* `many_of_each`, `commaSeparated_of_each`: items one after the other.
* `name_dotted`: a dotted name is read up to its last part.
* `dataType_builtin`: a built-in type is read by the rest of its keyword.
-/

namespace ChangeFeed.Sql.Parse

variable {α β : Type} {ts mid rest : List Token} {t : Token} {k w : String}

/-! ## One reader after the other -/

theorem bind_of_ok {p : Parse α} {a : α} (h : p ts = .ok (a, rest)) (f : α → Parse β) :
    (p >>= f) ts = f a rest := by
  simp only [bind, StateT.bind, h, Except.bind]

/-- A reader that goes on from another one has seen that one succeed. -/
theorem of_bind_ok {p : Parse α} {f : α → Parse β} {b : β} (h : (p >>= f) ts = .ok (b, rest)) :
    ∃ a mid, p ts = .ok (a, mid) ∧ f a mid = .ok (b, rest) := by
  cases hp : p ts with
  | error e =>
    simp only [bind, StateT.bind, hp, Except.bind] at h
    cases h
  | ok read =>
    rw [bind_of_ok hp] at h
    exact ⟨read.1, read.2, rfl, h⟩

theorem pure_run (a : α) (ts : List Token) : (pure a : Parse α) ts = .ok (a, ts) := rfl

theorem next_cons (t : Token) (ts : List Token) : next (t :: ts) = .ok (t, ts) := rfl

theorem remaining_run (ts : List Token) : remaining ts = .ok (ts.length, ts) := rfl

theorem peek?_run (ts : List Token) : peek? ts = .ok (ts.head?, ts) := rfl

/-! ## Keywords -/

/-- The keyword that the first token spells. -/
def headKeyword (ts : List Token) : Option String := ts.head?.bind Token.keyword?

@[simp] theorem headKeyword_nil : headKeyword [] = none := rfl

@[simp] theorem headKeyword_cons (t : Token) (ts : List Token) :
    headKeyword (t :: ts) = t.keyword? := rfl

@[simp] theorem keyword?_quoted (s : String) : (Token.word s true).keyword? = none := rfl

@[simp] theorem keyword?_symbol (s : String) : (Token.symbol s).keyword? = none := rfl

theorem isKeyword_iff : t.isKeyword k = true ↔ t.keyword? = some k := by
  simp [Token.isKeyword]

/-- Tokens that do not begin with the first keyword do not begin with all of them. -/
theorem startsWith_of_ne (h : headKeyword ts ≠ some k) (ks : List String) :
    startsWith (k :: ks) ts = false := by
  cases ts with
  | nil => rfl
  | cons t ts =>
    have ht : t.isKeyword k = false := by
      rw [Bool.eq_false_iff, ne_eq, isKeyword_iff]
      exact h
    rw [startsWith, ht, Bool.false_and]

theorem keywords?_of_ne (h : headKeyword ts ≠ some k) (ks : List String) :
    keywords? (k :: ks) ts = .ok (false, ts) := by
  simp only [keywords?, startsWith_of_ne h, Bool.false_eq_true, if_false]

theorem keyword?_of_ne (h : headKeyword ts ≠ some k) : keyword? k ts = .ok (false, ts) :=
  keywords?_of_ne h []

/-- Tokens that spell keywords begin with them, whatever stands behind. -/
theorem startsWith_append {ks : List String} {front : List Token}
    (h : front.map Token.keyword? = ks.map some) (ts : List Token) :
    startsWith ks (front ++ ts) = true := by
  -- Keywords and tokens are used up together.
  induction ks generalizing front with
  | nil => rfl
  | cons k ks ih =>
    cases front with
    | nil => cases h
    | cons t front =>
      obtain ⟨ht, hmore⟩ := List.cons.inj h
      rw [List.cons_append, startsWith, isKeyword_iff.2 ht, ih hmore]
      rfl

/-! ## Symbols -/

theorem symbol?_cons (s : String) (ts : List Token) :
    symbol? s (.symbol s :: ts) = .ok (true, ts) := by
  simp [symbol?]

/-- A symbol that does not stand there is not taken. -/
theorem symbol?_of_ne {s : String} (h : ts.head? ≠ some (.symbol s)) :
    symbol? s ts = .ok (false, ts) := by
  unfold symbol?
  split
  · next text ts =>
    have htext : text ≠ s := by simpa using h
    simp [htext]
  · rfl

/-! ## Items one after the other -/

section Items

variable {ι : Type} {written : ι → List Token} {value : ι → α} {items : List ι}

/-- Items are read one by one, up to what is none. -/
theorem manyUpTo_of_each {p : Parse (Option α)} (hstop : p rest = .ok (none, rest))
    (heach : ∀ i ∈ items, ∀ behind, p (written i ++ behind) = .ok (some (value i), behind))
    {limit : Nat} (hlimit : items.length ≤ limit) :
    manyUpTo p limit (items.flatMap written ++ rest) = .ok (items.map value, rest) := by
  -- The limit shrinks with the items, so it is not reached before the last of them.
  induction items generalizing limit with
  | nil =>
    cases limit with
    | zero => rfl
    | succ limit =>
      rw [manyUpTo]
      exact bind_of_ok hstop _
  | cons i items ih =>
    cases limit with
    | zero => simp at hlimit
    | succ limit =>
      have hmore := ih (fun j hj => heach j (List.mem_cons_of_mem i hj))
        (Nat.le_of_succ_le_succ hlimit)
      rw [manyUpTo, List.flatMap_cons, List.append_assoc,
        bind_of_ok (heach i List.mem_cons_self _)]
      exact bind_of_ok hmore _

/-- Items that are written with at least one token each are all read. -/
theorem many_of_each {p : Parse (Option α)} (hstop : p rest = .ok (none, rest))
    (heach : ∀ i ∈ items, ∀ behind, p (written i ++ behind) = .ok (some (value i), behind))
    (hne : ∀ i ∈ items, written i ≠ []) :
    many p (items.flatMap written ++ rest) = .ok (items.map value, rest) := by
  -- No item is empty, so there are at least as many tokens as items, and the bound is never
  -- reached.
  have hlength : items.length ≤ (items.flatMap written ++ rest).length := by
    clear heach hstop
    induction items with
    | nil => simp
    | cons i items ih =>
      have hi := List.length_pos_iff.2 (hne i List.mem_cons_self)
      have := ih fun j hj => hne j (List.mem_cons_of_mem i hj)
      simp only [List.flatMap_cons, List.append_assoc, List.length_append, List.length_cons] at *
      omega
  exact manyUpTo_of_each hstop heach hlength

/-- Where there is no item, none is read. -/
theorem many_of_none {p : Parse (Option α)} (hstop : p rest = .ok (none, rest)) :
    many p rest = .ok ([], rest) := by
  rw [many, bind_of_ok (remaining_run _)]
  cases rest with
  | nil => rfl
  | cons t rest => exact bind_of_ok hstop _

variable (Follows : List Token → Prop)

/-- Behind the first item, every item has a comma in front. -/
theorem commaItems_of_each {p : Parse α} (hrest : Follows rest)
    (hstop : rest.head? ≠ some (.symbol ",")) (hcomma : ∀ ts, Follows (.symbol "," :: ts))
    (heach : ∀ i ∈ items, ∀ behind, Follows behind →
      p (written i ++ behind) = .ok (value i, behind))
    {limit : Nat} (hlimit : items.length ≤ limit) :
    commaItems p limit (items.flatMap (fun i => .symbol "," :: written i) ++ rest) =
      .ok (items.map value, rest) := by
  induction items generalizing limit with
  | nil =>
    cases limit with
    | zero => rfl
    | succ limit =>
      rw [commaItems]
      exact bind_of_ok (symbol?_of_ne hstop) _
  | cons i items ih =>
    cases limit with
    | zero => simp at hlimit
    | succ limit =>
      have hmore := ih (fun j hj => heach j (List.mem_cons_of_mem i hj))
        (Nat.le_of_succ_le_succ hlimit)
      -- What stands behind an item is the comma of the next one, or the end of the list.
      have hbehind : Follows (items.flatMap (fun i => .symbol "," :: written i) ++ rest) := by
        cases items with
        | nil => exact hrest
        | cons j items => exact hcomma _
      have hitem := heach i List.mem_cons_self _ hbehind
      rw [commaItems, List.flatMap_cons, List.append_assoc, List.cons_append,
        bind_of_ok (symbol?_cons "," _), if_pos rfl, bind_of_ok hitem]
      exact bind_of_ok hmore _

/-- Items with commas between them are read up to the end of the last one. -/
theorem commaSeparated_of_each {p : Parse α} {first : ι} (hrest : Follows rest)
    (hstop : rest.head? ≠ some (.symbol ",")) (hcomma : ∀ ts, Follows (.symbol "," :: ts))
    (heach : ∀ i ∈ first :: items, ∀ behind, Follows behind →
      p (written i ++ behind) = .ok (value i, behind)) :
    commaSeparated p
        (written first ++ (items.flatMap (fun i => .symbol "," :: written i) ++ rest)) =
      .ok ((first :: items).map value, rest) := by
  -- Behind each item stands a comma or the rest, either of which ends it.
  have hbehind : Follows (items.flatMap (fun i => .symbol "," :: written i) ++ rest) := by
    cases items with
    | nil => exact hrest
    | cons j items => exact hcomma _
  -- Each further item brings a comma at least.
  have hlength : items.length ≤
      (items.flatMap (fun i => Token.symbol "," :: written i) ++ rest).length := by
    clear heach hbehind
    induction items with
    | nil => simp
    | cons i items ih =>
      simp only [List.flatMap_cons, List.append_assoc, List.length_append, List.length_cons] at *
      omega
  have hmore := commaItems_of_each Follows hrest hstop hcomma
    (fun i hi => heach i (List.mem_cons_of_mem first hi)) hlength
  rw [commaSeparated, bind_of_ok (heach first List.mem_cons_self _ hbehind),
    bind_of_ok (remaining_run _)]
  exact bind_of_ok hmore _

end Items

/-! ## Names -/

/-- The token of a word and the identifier that it is read as. -/
def identOf (text : String) (quoted : Bool) : Ident := ⟨text, if quoted then some '\x60' else none⟩

theorem ident_cons (text : String) (quoted : Bool) (ts : List Token) :
    ident (.word text quoted :: ts) = .ok (identOf text quoted, ts) := rfl

/-- A part of a name stands behind a period. -/
theorem namePart?_cons (text : String) (quoted : Bool) (ts : List Token) :
    namePart? (.symbol "." :: .word text quoted :: ts) = .ok (some (identOf text quoted), ts) := by
  rw [namePart?, bind_of_ok (symbol?_cons "." _)]
  rfl

/-- Without a period the name has no more parts. -/
theorem namePart?_of_ne (h : rest.head? ≠ some (.symbol ".")) :
    namePart? rest = .ok (none, rest) := by
  rw [namePart?, bind_of_ok (symbol?_of_ne h)]
  rfl

/-- A name that is written as words with periods between them is read up to its last part. -/
theorem name_dotted (text : String) (quoted : Bool) (more : List (String × Bool))
    (hrest : rest.head? ≠ some (.symbol ".")) :
    name (.word text quoted ::
        (more.flatMap (fun w => [.symbol ".", .word w.1 w.2]) ++ rest)) =
      .ok (.ofParts (identOf text quoted) (more.map fun w => identOf w.1 w.2), rest) := by
  have hmore : many namePart? (more.flatMap (fun w => [.symbol ".", .word w.1 w.2]) ++ rest) =
      .ok (more.map fun w => identOf w.1 w.2, rest) :=
    many_of_each (namePart?_of_ne hrest) (fun w _ behind => namePart?_cons w.1 w.2 behind)
      (by simp)
  rw [name, bind_of_ok (ident_cons text quoted _)]
  exact bind_of_ok hmore _

/-! ## Numbers and types -/

/-- A number within the bound is read from its text. -/
theorem decimal?_toString {bound n : Nat} (h : n ≤ bound) :
    decimal? bound (toString n) = some n := by
  have htext : (toString n).toList = Nat.toDigits 10 n := Nat.toList_repr
  have hdigits : (Nat.toDigits 10 n).all Char.isDigit = true :=
    List.all_eq_true.2 fun c hc => Nat.isDigit_of_mem_toDigits (by decide) (by decide) hc
  have hvalue : Nat.ofDigitChars 10 (Nat.toDigits 10 n) 0 = n := Nat.ofDigitChars_ten_toDigits
  -- The reader adds up digits as numbers do, only with the factors the other way round.
  have hfold : (Nat.toDigits 10 n).foldl (fun n c => n * 10 + (c.toNat - '0'.toNat)) 0 = n := by
    rw [Nat.ofDigitChars_eq_foldl] at hvalue
    simpa only [Nat.mul_comm] using hvalue
  have hne : (Nat.toDigits 10 n).isEmpty = false := by
    rw [List.isEmpty_eq_false_iff]
    exact Nat.toDigits_ne_nil
  simp only [decimal?, htext, hdigits, hne, hfold, Bool.not_true, Bool.or_false,
    Bool.false_eq_true, if_false, if_pos h]

/-- A whole number, whether a letter stands behind its digits or not. -/
theorem whole_cons {digits : String} {n : Nat} (long : Bool)
    (h : decimal? (UInt64.size - 1) digits = some n) (ts : List Token) :
    whole (.number digits long :: ts) = .ok (n, ts) := by
  rw [whole, bind_of_ok (next_cons _ _)]
  simp only [h]
  rfl

/-- A length between brackets. -/
theorem textLength?_whole {digits : String} {n : Nat}
    (h : decimal? (UInt64.size - 1) digits = some n) (ts : List Token) :
    textLength? (.symbol "(" :: .number digits false :: .symbol ")" :: ts) =
      .ok (some (.exact n none), ts) := by
  rw [textLength?, bind_of_ok (symbol?_cons "(" _), if_pos rfl,
    bind_of_ok (keyword?_of_ne (by simp [Token.keyword?])), if_neg Bool.false_ne_true,
    bind_of_ok (whole_cons false h _)]
  rfl

/-- Without an opening bracket there are none. -/
theorem brackets?_of_ne (h : rest.head? ≠ some (.symbol "[")) :
    brackets? rest = .ok (none, rest) := by
  rw [brackets?, bind_of_ok (symbol?_of_ne h)]
  rfl

/-- A built-in type is read by the rest of its keyword, unless brackets follow. -/
theorem dataType_builtin {text : String} {p : Parse DataType} {type : DataType}
    (hk : builtinType? (Text.uppercase text) = some p) (hp : p ts = .ok (type, rest))
    (hrest : rest.head? ≠ some (.symbol "[")) :
    dataType (.word text false :: ts) = .ok (type, rest) := by
  -- The keyword is taken first, then what it announces; no brackets follow.
  have hread : dataTypeUpTo ((Token.word text false :: ts).length + 1) (.word text false :: ts) =
      .ok ((type, false), rest) := by
    rw [dataTypeUpTo, bind_of_ok (peek?_run _)]
    simp only [List.head?_cons, hk]
    rw [bind_of_ok (next_cons _ _), bind_of_ok hp, bind_of_ok (pure_run _ _),
      bind_of_ok (many_of_none (brackets?_of_ne hrest))]
    rfl
  rw [dataType, bind_of_ok (remaining_run _), bind_of_ok hread]
  rfl

end ChangeFeed.Sql.Parse

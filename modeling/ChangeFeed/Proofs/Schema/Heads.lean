import ChangeFeed.Proofs.Schema.Dialect
import ChangeFeed.Proofs.Sql.Lexing
import ChangeFeed.Proofs.Text.Words

/-!
# Schema changes: How a statement begins

The kind of a statement is told by how the text of its first words begins, while a statement about a
table is one whose first words are those of a head, word for word. The two differ where the last
word runs on, as in `CREATE TABLESPACE`, and where blanks that belong to a word stand in front.

## Main results

* `kindOf_of_begins`, `kindOf_of_startsWith`: a statement that begins like a head is of its kind.
* `isTableLevel_kindOf_iff`: which statements are taken for statements about tables.
* `other_statement_told_nothing_iff`: which other statements are passed over.
-/

namespace ChangeFeed.Schema

open Sql (Token statements?)
open Sql.Parse (startsWith)
open Text (join trimFront)

/-! ## Heads -/

/-- How a statement about a table begins: its first words, the last of them apart. -/
structure TableHead where
  front : List String
  last : String
  kind : ChangeKind
  deriving DecidableEq

def TableHead.words (h : TableHead) : List String := h.front ++ [h.last]

def tableHeads : List TableHead :=
  [⟨["CREATE"], "TABLE", .create⟩, ⟨["CREATE", "TEMPORARY"], "TABLE", .create⟩,
   ⟨["ALTER"], "TABLE", .alter⟩, ⟨["ALTER", "ONLINE"], "TABLE", .alter⟩,
   ⟨["ALTER", "IGNORE"], "TABLE", .alter⟩, ⟨["DROP"], "TABLE", .drop⟩,
   ⟨["DROP", "TEMPORARY"], "TABLE", .drop⟩, ⟨[], "TRUNCATE", .truncate⟩,
   ⟨["RENAME"], "TABLE", .rename⟩]

/-- A head as it is looked for in a text. -/
def TableHead.entry (h : TableHead) : String × ChangeKind := (" ".intercalate h.words, h.kind)

/-- Every head is among those that are looked for. -/
theorem entry_mem_heads {h : TableHead} (hh : h ∈ tableHeads) : h.entry ∈ ChangeKind.heads := by
  revert h
  decide

/-- The heads of the kinds that are about tables are all there are. -/
theorem exists_entry_of_isTableLevel {head : String × ChangeKind} (hhead : head ∈ ChangeKind.heads)
    (hlevel : head.2.isTableLevel = true) : ∃ h ∈ tableHeads, h.entry = head := by
  revert head
  decide

/-- No head is the beginning of another one. -/
theorem heads_apart : ∀ a ∈ ChangeKind.heads, ∀ b ∈ ChangeKind.heads,
    a.1.toList <+: b.1.toList → a = b := by
  decide

/-- A head is no longer than the words that are looked at. -/
theorem length_words_le {h : TableHead} (hh : h ∈ tableHeads) : h.words.length ≤ 4 := by
  revert h
  decide

/-- No word of a head holds a space, and none of them comes to an end before it begins. -/
theorem words_plain {h : TableHead} (hh : h ∈ tableHeads) :
    (∀ w ∈ h.front, ' ' ∉ w.toList) ∧ ' ' ∉ h.last.toList ∧ h.last ≠ "" := by
  revert h
  decide

/-- Every head is one of statements about tables. -/
theorem isTableLevel_of_mem {h : TableHead} (hh : h ∈ tableHeads) :
    h.kind.isTableLevel = true := by
  revert h
  decide

/-- No head ends with a blank. -/
theorem getLast?_join_words {h : TableHead} (hh : h ∈ tableHeads) :
    (join h.words).getLast?.all (!Text.isBlank ·) = true := by
  revert h
  decide

/-! ## First words -/

/-- The first words are the keywords in front, of which at most four count. -/
theorem headWords_eq (ts : List Token) :
    headWords ts = (((ts.take 4).map Token.keyword?).takeWhile Option.isSome).filterMap id := rfl

/-- A statement begins with given words exactly if they are its first words. -/
theorem startsWith_iff_spelled {ks : List String} {n : Nat} (hn : ks.length ≤ n)
    (ts : List Token) :
    startsWith ks ts = true ↔
      ∃ rest, (((ts.take n).map Token.keyword?).takeWhile Option.isSome).filterMap id =
        ks ++ rest := by
  induction ks generalizing n ts with
  | nil => simp [startsWith]
  -- The induction is on the words looked for; each uses up one of those that are looked at.
  | cons k ks ih =>
    obtain ⟨n, rfl⟩ : ∃ m, n = m + 1 := ⟨n - 1, by simp at hn; omega⟩
    cases ts with
    | nil => simp [startsWith]
    | cons t ts =>
      rw [startsWith, Bool.and_eq_true, ih (Nat.le_of_succ_le_succ hn) ts, Token.isKeyword,
        beq_iff_eq]
      cases hk : t.keyword? with
      | none => simp [hk]
      | some l => simp [hk]

/-- As no head has more than four words, the first words tell them all apart. -/
theorem startsWith_iff_headWords {ks : List String} (hks : ks.length ≤ 4) (ts : List Token) :
    startsWith ks ts = true ↔ ∃ rest, headWords ts = ks ++ rest :=
  startsWith_iff_spelled hks ts

/-- A first word stands in the text without quotes, in capitals or not. -/
theorem mem_headWords {ts : List Token} {w : String} (hw : w ∈ headWords ts) :
    ∃ text, Token.word text false ∈ ts ∧ w = Text.uppercase text := by
  rw [headWords_eq, List.mem_filterMap] at hw
  obtain ⟨k, hk, rfl : k = some w⟩ := hw
  obtain ⟨t, ht, hkeyword⟩ := List.mem_map.1 ((List.takeWhile_prefix _).mem hk)
  have hmem : t ∈ ts := List.mem_of_mem_take ht
  unfold Token.keyword? at hkeyword
  split at hkeyword
  · -- A word between quotes is no keyword, so it is not among the first words.
    exact ⟨_, hmem, (Option.some.inj hkeyword).symm⟩
  · cases hkeyword

/-! ## Kinds -/

/-- The first words read like a head: blanks in front do not count, and the last word may run on. -/
def Begins (ws : List String) (h : TableHead) : Prop :=
  ∃ w rest, trimFront ws = h.front ++ w :: rest ∧ h.last.toList <+: w.toList

variable {sql : String} {ts : List Token}

/-- No blank stands in front of a head. -/
theorem trimFront_words {h : TableHead} (hh : h ∈ tableHeads) (rest : List String) :
    trimFront (h.words ++ rest) = h.words ++ rest := by
  simp only [tableHeads, List.mem_cons, List.not_mem_nil, or_false] at hh
  rcases hh with rfl | rfl | rfl | rfl | rfl | rfl | rfl | rfl | rfl <;> rfl

/-- What begins with the words of a head, word for word, reads like it. -/
theorem begins_of_startsWith {h : TableHead} (hh : h ∈ tableHeads)
    (hstarts : startsWith h.words ts = true) : Begins (headWords ts) h := by
  obtain ⟨rest, hwords⟩ := (startsWith_iff_headWords (length_words_le hh) ts).1 hstarts
  refine ⟨h.last, rest, ?_, List.prefix_refl _⟩
  rw [hwords, trimFront_words hh, TableHead.words, List.append_assoc]
  rfl

/-- The kind is the one of the head that the first words, joined, begin with. -/
theorem kindOf_eq (ts : List Token) :
    kindOf ts =
      match ChangeKind.heads.find? fun head =>
          head.1.toList.isPrefixOf (Text.trimChars (join (headWords ts))) with
      | some (_, kind) => kind
      | none => .other := by
  -- The first words are in capitals already.
  have hwords : (headWords ts).map Text.uppercase = headWords ts := by
    refine (List.map_congr_left fun w hw => ?_).trans (List.map_id _)
    obtain ⟨text, -, rfl⟩ := mem_headWords hw
    exact Text.uppercase_uppercase text
  rw [kindOf, ChangeKind.ofText, Text.uppercase_intercalate, hwords]
  rfl

/-- The text of the first words begins with a head exactly if the words read like it. -/
theorem isPrefixOf_iff_begins (htokens : Sql.tokens sql = .ok ts) {h : TableHead}
    (hh : h ∈ tableHeads) :
    h.entry.1.toList.isPrefixOf (Text.trimChars (join (headWords ts))) = true ↔
      Begins (headWords ts) h := by
  obtain ⟨hfront, hlast, hne⟩ := words_plain hh
  -- The first words hold no space, so the text they make can be compared word by word.
  have hspace : ∀ w ∈ headWords ts, ' ' ∉ w.toList := by
    intro w hw
    obtain ⟨text, hmem, rfl⟩ := mem_headWords hw
    exact Text.not_mem_space_uppercase (Sql.not_mem_space_of_tokens htokens hmem)
  rw [List.isPrefixOf_iff_prefix]
  show join h.words <+: _ ↔ _
  rw [Text.prefix_trimChars_iff (getLast?_join_words hh), Text.dropWhile_join, TableHead.words,
    Text.prefix_join_iff hfront hlast hne (Text.not_mem_space_trimFront hspace)]
  rfl

/-- A statement whose first words, joined, begin with a head is of its kind. -/
theorem kindOf_of_isPrefixOf {h : TableHead} (hh : h ∈ tableHeads)
    (hbegin : h.entry.1.toList.isPrefixOf (Text.trimChars (join (headWords ts))) = true) :
    kindOf ts = h.kind := by
  rw [kindOf_eq]
  cases hfind : ChangeKind.heads.find? fun head =>
      head.1.toList.isPrefixOf (Text.trimChars (join (headWords ts))) with
  | none => exact absurd hbegin (List.find?_eq_none.1 hfind _ (entry_mem_heads hh))
  | some head =>
    have hhead := List.mem_of_find?_eq_some hfind
    have hfound := List.find?_some hfind
    rw [List.isPrefixOf_iff_prefix] at hbegin hfound
    -- Of two heads that the text begins with, one begins with the other.
    have hsame : head = h.entry := by
      rcases List.prefix_or_prefix_of_prefix hfound hbegin with hinside | hinside
      · exact heads_apart _ hhead _ (entry_mem_heads hh) hinside
      · exact (heads_apart _ (entry_mem_heads hh) _ hhead hinside).symm
    subst hsame
    rfl

/-- **Kind of a head**: a statement that begins like a head is of its kind. -/
theorem kindOf_of_begins (htokens : Sql.tokens sql = .ok ts) {h : TableHead}
    (hh : h ∈ tableHeads) (hbegins : Begins (headWords ts) h) : kindOf ts = h.kind :=
  kindOf_of_isPrefixOf hh ((isPrefixOf_iff_begins htokens hh).2 hbegins)

/-- **Kind word for word**: tokens that begin with the words of a head are of its kind, whatever
their other words hold. -/
theorem kindOf_of_startsWith {h : TableHead} (hh : h ∈ tableHeads)
    (hstarts : startsWith h.words ts = true) : kindOf ts = h.kind := by
  obtain ⟨rest, hwords⟩ := (startsWith_iff_headWords (length_words_le hh) ts).1 hstarts
  refine kindOf_of_isPrefixOf hh ?_
  rw [List.isPrefixOf_iff_prefix, hwords]
  show join h.words <+: _
  rw [Text.prefix_trimChars_iff (getLast?_join_words hh), Text.dropWhile_join,
    trimFront_words hh]
  exact Text.join_prefix_append h.words rest

/-- A statement is taken for one about a table exactly if it reads like some head. -/
theorem isTableLevel_kindOf_iff (htokens : Sql.tokens sql = .ok ts) :
    (kindOf ts).isTableLevel = true ↔ ∃ h ∈ tableHeads, Begins (headWords ts) h := by
  constructor
  · intro hlevel
    rw [kindOf_eq] at hlevel
    split at hlevel
    · next text kind hfind =>
      -- The head found first is one of those about tables, whatever heads come before it.
      have hhead := List.mem_of_find?_eq_some hfind
      obtain ⟨h, hh, hentry⟩ := exists_entry_of_isTableLevel hhead hlevel
      have hfound := List.find?_some hfind
      rw [← hentry] at hfound
      exact ⟨h, hh, (isPrefixOf_iff_begins htokens hh).1 hfound⟩
    · cases hlevel
  · rintro ⟨h, hh, hbegins⟩
    rw [kindOf_of_begins htokens hh hbegins]
    exact isTableLevel_of_mem hh

/-! ## Statements about other things -/

/-- The first words are those of a head, word for word. -/
def OpensTable (ts : List Token) : Prop := ∃ h ∈ tableHeads, startsWith h.words ts = true

instance (ts : List Token) : Decidable (OpensTable ts) :=
  inferInstanceAs (Decidable (∃ h ∈ tableHeads, startsWith h.words ts = true))

/-- The first words read like a head only because a longer word stands in the place of the last one,
or because blanks are part of the words. -/
def RunsOn (ts : List Token) : Prop :=
  ∃ h ∈ tableHeads, ∃ w rest, trimFront (headWords ts) = h.front ++ w :: rest ∧
    h.last.toList <+: w.toList ∧ (w ≠ h.last ∨ trimFront (headWords ts) ≠ headWords ts)

/-- What reads like a head either is one, word for word, or runs on from it. -/
theorem begins_iff (ts : List Token) :
    (∃ h ∈ tableHeads, Begins (headWords ts) h) ↔ OpensTable ts ∨ RunsOn ts := by
  constructor
  · rintro ⟨h, hh, w, rest, hwords, hlast⟩
    -- Either the last word is that of the head and nothing was taken off in front, or one of both
    -- fails.
    by_cases hexact : w = h.last ∧ trimFront (headWords ts) = headWords ts
    · obtain ⟨rfl, hfront⟩ := hexact
      refine .inl ⟨h, hh, (startsWith_iff_headWords (length_words_le hh) ts).2 ⟨rest, ?_⟩⟩
      rw [← hfront, hwords, TableHead.words, List.append_assoc]
      rfl
    · exact .inr ⟨h, hh, w, rest, hwords, hlast, not_and_or.1 hexact⟩
  · rintro (⟨h, hh, hstarts⟩ | ⟨h, hh, w, rest, hwords, hlast, -⟩)
    · exact ⟨h, hh, begins_of_startsWith hh hstarts⟩
    · exact ⟨h, hh, w, rest, hwords, hlast⟩

/-- A statement is passed over exactly if it is not taken for one about a table. -/
theorem unparsedChange_eq_nil_iff (sql : String) (ts : List Token) :
    unparsedChange sql ts = .ok [] ↔ (kindOf ts).isTableLevel = false := by
  cases hlevel : (kindOf ts).isTableLevel with
  | false => simp [unparsedChange, hlevel]
  | true =>
    cases htable : tableNamed (kindOf ts) ts <;> simp [unparsedChange, hlevel, htable]

/-- **Other statements**: where the first words are not those of a head, neither dialect tells
anything, unless they run on from one. -/
theorem other_statement_told_nothing_iff (htokens : Sql.tokens sql = .ok ts)
    (hother : ¬ OpensTable ts) :
    (Dialect.passthrough.changes sql = .ok [] ∧
        (statements? ts = none → Dialect.basic.changes sql = .ok [])) ↔
      ¬ RunsOn ts := by
  -- Passing a text on depends only on its kind, and the kind only on how the text begins.
  have hlevel : (kindOf ts).isTableLevel = false ↔ ¬ RunsOn ts := by
    rw [← Bool.not_eq_true, isTableLevel_kindOf_iff htokens, begins_iff]
    simp [hother]
  rw [passthrough_of_tokens htokens, unparsedChange_eq_nil_iff, hlevel]
  refine and_iff_left_of_imp fun hruns hread => ?_
  rw [basic_of_none htokens hread, unparsedChange_eq_nil_iff, hlevel]
  exact hruns

def triggerTokens : List Token :=
  [.word "CREATE" false, .word "TRIGGER" false, .word "touch" false]

/-- The words of `CREATE TRIGGER` are those of no head, nor do they run on from one. -/
theorem trigger_told_nothing :
    Sql.tokens "CREATE TRIGGER touch" = .ok triggerTokens ∧ ¬ OpensTable triggerTokens ∧
      statements? triggerTokens = none ∧
      Dialect.passthrough.changes "CREATE TRIGGER touch" = .ok [] ∧
      Dialect.basic.changes "CREATE TRIGGER touch" = .ok [] := by
  have htokens : Sql.tokens "CREATE TRIGGER touch" = .ok triggerTokens := by decide +kernel
  have hother : ¬ OpensTable triggerTokens := by decide
  have hread : statements? triggerTokens = none := by rfl
  have hwords : trimFront (headWords triggerTokens) = ["CREATE", "TRIGGER", "TOUCH"] := by decide
  -- The heads that begin alike go on with a word that none of these begins with.
  have hapart : ∀ h ∈ tableHeads, h.front <+: ["CREATE", "TRIGGER", "TOUCH"] →
      ∀ w ∈ ["CREATE", "TRIGGER", "TOUCH"], ¬ h.last.toList <+: w.toList := by decide
  have hruns : ¬ RunsOn triggerTokens := by
    rintro ⟨h, hh, w, rest, heq, hlast, -⟩
    rw [hwords] at heq
    exact hapart h hh ⟨w :: rest, heq.symm⟩ w (by simp [heq]) hlast
  obtain ⟨hpassthrough, hbasic⟩ := (other_statement_told_nothing_iff htokens hother).2 hruns
  exact ⟨htokens, hother, hread, hpassthrough, hbasic hread⟩

def tablespaceText : String := "CREATE TABLESPACE ts ADD DATAFILE 'ts.ibd'"

def tablespaceTokens : List Token :=
  [.word "CREATE" false, .word "TABLESPACE" false, .word "ts" false, .word "ADD" false,
   .word "DATAFILE" false, .single "ts.ibd"]

/-- A tablespace is not a table, and yet its statement is rejected for want of one. -/
theorem tablespace_is_rejected :
    Sql.tokens tablespaceText = .ok tablespaceTokens ∧ ¬ OpensTable tablespaceTokens ∧
      statements? tablespaceTokens = none ∧
      Dialect.passthrough.changes tablespaceText = .error (.noTable tablespaceText) ∧
      Dialect.basic.changes tablespaceText = .error (.noTable tablespaceText) := by
  have htokens : Sql.tokens tablespaceText = .ok tablespaceTokens := by decide +kernel
  have hread : statements? tablespaceTokens = none := by rfl
  have hraw : unparsedChange tablespaceText tablespaceTokens =
      .error (.noTable tablespaceText) := by
    decide +kernel
  refine ⟨htokens, by decide, hread, ?_, ?_⟩
  · rw [passthrough_of_tokens htokens, hraw]
  · rw [basic_of_none htokens hread, hraw]

end ChangeFeed.Schema

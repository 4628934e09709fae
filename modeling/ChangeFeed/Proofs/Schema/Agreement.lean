import ChangeFeed.Proofs.Schema.Targets
import ChangeFeed.Proofs.Sql.Tables

/-!
# Schema changes: Where the dialects agree

One dialect reads a statement by its grammar, the other one looks for its table among the tokens.
For a statement whose structure is told they find the same table if nothing but a head, and the
words that say whether the table must exist, stands in front of a name written as words.

## Main results

* `tableNamed_plain`: the name is found among the tokens.
* `about_of_statement`: the grammar makes the statement one about the table of that name.
* `passthrough_follows_basic`: the statement is passed on as a change of the table whose structure
  changes first.
-/

namespace ChangeFeed.Schema

open Sql (Token Statement Name statements?)
open Sql.Parse (startsWith identOf headKeyword)

/-! ## Plain spellings -/

/-- What may stand between a head and the table. -/
def optionalWords : ChangeKind → List (List String)
  | .create => [[], ["IF", "NOT", "EXISTS"]]
  | .alter | .drop => [[], ["IF", "EXISTS"]]
  | .truncate => [[], ["TABLE"]]
  | _ => [[]]

/-- Words that are not taken for the name of a table when a statement of the kind names one. -/
def reservedWords : ChangeKind → List String
  | .alter | .truncate => "ONLY" :: fillers
  | _ => fillers

/-- The statement begins with a head, spelled in ASCII letters, and a name in words. -/
inductive PlainlySpelled : List Token → Prop where
  | intro {h : TableHead} {optional front : List String} {first : String} {quoted : Bool}
      {more : List (String × Bool)} {behind : List Token} (isHead : h ∈ tableHeads)
      (isOptional : optional ∈ optionalWords h.kind)
      (spelled : front.map (String.map Char.toUpper) = h.words ++ optional)
      (isName : ∀ k ∈ reservedWords h.kind, (Token.word first quoted).keyword? ≠ some k)
      (ends : behind.head? ≠ some (.symbol ".")) :
      PlainlySpelled (front.map wordToken ++ .word first quoted :: (dotted more ++ behind))

/-! ## Bare words -/

/-- Words spelled in ASCII letters are keywords. -/
theorem keywords_of_spelled {ks texts : List String} (hks : ∀ k ∈ ks, Text.isAscii k = true)
    (h : texts.map (String.map Char.toUpper) = ks) :
    (texts.map wordToken).map Token.keyword? = ks.map some := by
  subst h
  rw [List.map_map, List.map_map]
  refine List.map_congr_left fun text htext => ?_
  exact congrArg some (Text.uppercase_of_map_toUpper (hks _ (List.mem_map_of_mem htext)) rfl)

/-- All words in front of the name are spelled in ASCII letters. -/
theorem words_ascii {h : TableHead} (hh : h ∈ tableHeads) {optional : List String}
    (hoptional : optional ∈ optionalWords h.kind) :
    ∀ k ∈ h.words ++ optional, Text.isAscii k = true := by
  revert optional
  revert h
  decide

/-! ## The table among the tokens -/

/-- The words that may be left out are among those passed over. -/
theorem optionalWords_subset {h : TableHead} (hh : h ∈ tableHeads) {optional : List String}
    (hoptional : optional ∈ optionalWords h.kind) : ∀ k ∈ optional, k ∈ fillers := by
  revert optional
  revert h
  decide

/-- Whatever is passed over cannot be the name. -/
theorem mem_reservedWords (kind : ChangeKind) : ∀ k ∈ fillers, k ∈ reservedWords kind := by
  cases kind <;> decide

/-- No word of a name is passed over in search for it. -/
theorem not_filler {kind : ChangeKind} {t : Token}
    (h : ∀ k ∈ reservedWords kind, t.keyword? ≠ some k) : isFiller t = false := by
  have hascii : ∀ k ∈ fillers, Text.isAscii k = true := by decide
  rw [isFiller, List.any_eq_false]
  intro k hk hbare
  exact h k (mem_reservedWords kind k hk) (keyword?_of_isBareWord (hascii k hk) hbare)

/-- The last word of a dotted name is the base of the name. -/
theorem base_ofParts (first : String) (quoted : Bool) (more : List (String × Bool)) :
    (Name.ofParts (identOf first quoted) (more.map fun w => identOf w.1 w.2)).base.text =
      lastWord first more := by
  -- The induction is on the words behind periods, as the last one is taken in both readings.
  induction more generalizing first quoted with
  | nil => rfl
  | cons w more ih => exact ih w.1 w.2

/-- **Among the tokens**: behind the head and the words that may be left out, the name is found. -/
theorem tableNamed_plain {h : TableHead} {optional front : List String} {behind : List Token}
    (hh : h ∈ tableHeads) (hoptional : optional ∈ optionalWords h.kind)
    (hspelled : front.map (String.map Char.toUpper) = h.words ++ optional) (first : String)
    (quoted : Bool) (more : List (String × Bool))
    (hname : ∀ k ∈ reservedWords h.kind, (Token.word first quoted).keyword? ≠ some k)
    (hbehind : behind.head? ≠ some (.symbol ".")) :
    tableNamed h.kind (front.map wordToken ++ .word first quoted :: (dotted more ++ behind)) =
      some (Name.ofParts (identOf first quoted) (more.map fun w => identOf w.1 w.2)).base.text := by
  -- The spelling is cut where the head ends; the words behind it are passed over one by one.
  obtain ⟨words, passed, rfl, hwords, hpassed⟩ := List.map_eq_append_iff.1 hspelled
  have hkeywords := keywords_of_spelled
    (fun k hk => words_ascii hh hoptional k (List.mem_append_left _ hk)) hwords
  have hfillers : ∀ t ∈ passed.map wordToken, isFiller t = true := by
    intro t ht
    obtain ⟨text, htext, rfl⟩ := List.mem_map.1 ht
    refine List.any_eq_true.2 ⟨text.map Char.toUpper, ?_, decide_eq_true rfl⟩
    exact optionalWords_subset hh hoptional _ (hpassed ▸ List.mem_map_of_mem htext)
  rw [List.map_append, List.append_assoc, base_ofParts]
  exact tableNamed_headed hh hkeywords hfillers (not_filler hname) hbehind

/-! ## The table by the grammar -/

section Grammar

open Sql.Parse

variable {h : TableHead} {texts : List String} {words : List Token} {body behind mid : List Token}
  {n : Name} {s : Statement}

/-- **By the grammar**: a statement that begins plainly is passed on, or it is about the table that
it names. -/
theorem about_of_statement {optional : List String} {passed : List Token} (hh : h ∈ tableHeads)
    (hwords : words.map Token.keyword? = h.words.map some)
    (hoptional : optional ∈ optionalWords h.kind)
    (hpassed : passed.map Token.keyword? = optional.map some)
    (hread : name body = .ok (n, behind))
    (hname : ∀ k ∈ reservedWords h.kind, headKeyword body ≠ some k)
    (hstatement : statement parts (words ++ (passed ++ body)) = .ok (s, mid)) :
    isPassedOn s = true ∨ About n s := by
  have hif : headKeyword body ≠ some "IF" := hname _ (mem_reservedWords _ _ (by decide))
  have htable : headKeyword body ≠ some "TABLE" := hname _ (mem_reservedWords _ _ (by decide))
  -- There is a case for each head, as each has its own reader for what stands behind it.
  simp only [tableHeads, List.mem_cons, List.not_mem_nil, or_false] at hh
  rcases hh with rfl | rfl | rfl | rfl | rfl | rfl | rfl | rfl | rfl <;>
    simp only [TableHead.words, optionalWords, List.mem_cons, List.not_mem_nil, or_false,
      List.cons_append, List.nil_append, List.map_cons, List.map_nil, List.map_eq_cons_iff,
      List.map_eq_nil_iff] at hwords hoptional
  -- `CREATE TABLE`
  · obtain ⟨t, _, rfl, ht, u, _, rfl, hu, rfl⟩ := hwords
    have hread' := (statement_createTable ht hu (passed ++ body)).symm.trans hstatement
    exact .inr (createTable_gives hread (keywords?_optional hoptional hpassed hif) hread')
  -- `CREATE TEMPORARY TABLE`
  · obtain ⟨t, _, rfl, ht, u, _, rfl, hu, v, _, rfl, hv, rfl⟩ := hwords
    have hread' := (statement_createTemporary ht hu hv (passed ++ body)).symm.trans hstatement
    exact .inr (createTable_gives hread (keywords?_optional hoptional hpassed hif) hread')
  -- `ALTER TABLE`
  · obtain ⟨t, _, rfl, ht, u, _, rfl, hu, rfl⟩ := hwords
    have honly : headKeyword body ≠ some "ONLY" := hname _ (by decide)
    have hread' := (statement_alterTable ht hu (passed ++ body)).symm.trans hstatement
    exact .inr (alterTable_gives hread honly (keywords?_optional hoptional hpassed hif) hread')
  -- `ALTER ONLINE TABLE` and `ALTER IGNORE TABLE`
  · obtain ⟨t, _, rfl, ht, u, _, rfl, hu, _⟩ := hwords
    have hread' := (statement_alterMode ht hu (by decide) _).symm.trans hstatement
    cases hread'
  · obtain ⟨t, _, rfl, ht, u, _, rfl, hu, _⟩ := hwords
    have hread' := (statement_alterMode ht hu (by decide) _).symm.trans hstatement
    cases hread'
  -- `DROP TABLE`
  · obtain ⟨t, _, rfl, ht, u, _, rfl, hu, rfl⟩ := hwords
    have hread' := (statement_dropTable ht hu (passed ++ body)).symm.trans hstatement
    exact .inr (dropTables_gives hread (keywords?_optional hoptional hpassed hif) hread')
  -- `DROP TEMPORARY TABLE`
  · obtain ⟨t, _, rfl, ht, u, _, rfl, hu, v, _, rfl, hv, rfl⟩ := hwords
    have hread' := (statement_dropTemporary ht hu hv (passed ++ body)).symm.trans hstatement
    exact .inr (dropTables_gives hread (keywords?_optional hoptional hpassed hif) hread')
  -- `TRUNCATE`
  · obtain ⟨t, _, rfl, ht, rfl⟩ := hwords
    have honly : headKeyword body ≠ some "ONLY" := hname _ (by decide)
    have hread' := (statement_truncate ht (passed ++ body)).symm.trans hstatement
    exact .inr (truncate_gives hread honly (keywords?_optional hoptional hpassed htable) hread')
  -- `RENAME TABLE`
  · obtain ⟨t, _, rfl, ht, _⟩ := hwords
    obtain ⟨pairs, rfl⟩ := statement_rename ht hstatement
    exact .inl rfl

/-- The first change of a statement is made to the table that the statement is about. -/
theorem table_of_about {sql : String} {c : TableChange} {cs : List TableChange} (habout : About n s)
    (h : ofStatement sql s = .ok (c :: cs)) : c.table = n.base.text := by
  cases s with
  | createTable table columns constraints =>
    cases habout
    cases h
    rfl
  | alterTable table clauses =>
    cases habout
    simp only [ofStatement, Except.ok.injEq] at h
    -- Every clause changes the same table.
    have hmem : c ∈ c :: cs := List.mem_cons_self
    rw [← h] at hmem
    obtain ⟨operation, -, rfl⟩ := List.mem_map.1 hmem
    rfl
  | dropTables tables =>
    cases tables with
    | nil => cases habout
    | cons table tables =>
      cases habout
      cases h
      rfl
  | truncateTables tables =>
    cases tables with
    | nil => cases habout
    | cons table tables =>
      cases habout
      cases h
      rfl
  | renameTables pairs => cases habout
  | other text => cases habout

end Grammar

/-! ## Both dialects -/

variable {sql : String} {ts : List Token} {c : TableChange} {cs : List TableChange}

/-- A statement that is passed on makes one change. -/
theorem unparsedChange_of_cons (h : unparsedChange sql ts = .ok (c :: cs)) :
    unparsedChange sql ts = .ok [⟨c.table, .raw (kindOf ts) (Text.trim sql)⟩] := by
  rw [h]
  simp only [unparsedChange] at h
  split at h
  · split at h
    · cases h
      rfl
    · cases h
  · cases h

/-- A statement that is spelled plainly and told by its structure is passed on as one change of the
table that is changed first. -/
theorem unparsedChange_plain {s : Statement} (hplain : PlainlySpelled ts)
    (hpassed : isPassedOn s = false) (hread : statements? ts = some [s])
    (htold : ofStatement sql s = .ok (c :: cs)) :
    unparsedChange sql ts = .ok [⟨c.table, .raw (kindOf ts) (Text.trim sql)⟩] := by
  obtain ⟨hh, hoptional, hspelled, hname, hbehind⟩ := hplain
  next h optional front first quoted more behind =>
  have hbody := Sql.Parse.name_dotted first quoted more hbehind
  have htable := tableNamed_plain hh hoptional hspelled first quoted more hname hbehind
  have hascii := words_ascii hh hoptional
  -- The spelling is cut into the words of the head and those that may be left out.
  obtain ⟨words, passed, rfl, hwords, hoptionals⟩ := List.map_eq_append_iff.1 hspelled
  have hkeywords := keywords_of_spelled (fun k hk => hascii k (List.mem_append_left _ hk)) hwords
  have hpassedOver :=
    keywords_of_spelled (fun k hk => hascii k (List.mem_append_right _ hk)) hoptionals
  rw [List.map_append, List.append_assoc] at *
  have hkind := kindOf_of_startsWith hh (Sql.Parse.startsWith_append hkeywords
    (passed.map wordToken ++ .word first quoted :: (dotted more ++ behind)))
  have hfirst : (words.map wordToken ++ (passed.map wordToken ++
      .word first quoted :: (dotted more ++ behind))).head? ≠ some (.symbol ";") := by
    cases words with
    | nil => simp [TableHead.words] at hwords
    | cons word words => simp [wordToken]
  obtain ⟨rest, hstatement⟩ := Sql.statement_of_statements? hfirst hread
  -- The grammar is followed through the same words, so both readings arrive at the name.
  have habout := (about_of_statement hh hkeywords hoptional hpassedOver hbody hname
    hstatement).resolve_left (by simp [hpassed])
  rw [table_of_about habout htold]
  refine unparsedChange_of_tableNamed (hkind ▸ isTableLevel_of_mem hh) ?_
  rw [hkind]
  exact htable

/-- **Same table**: of a text that holds a single statement and makes changes, one change is passed
on, to the table that is changed first; if the structure of these changes is told, the statement has
to be spelled plainly for that. -/
theorem passthrough_follows_basic (htokens : Sql.tokens sql = .ok ts)
    (hsingle : statements? ts = none ∨ ∃ s, statements? ts = some [s])
    (hplain : ∀ s, statements? ts = some [s] → isPassedOn s = false → PlainlySpelled ts)
    (hbasic : Dialect.basic.changes sql = .ok (c :: cs)) :
    Dialect.passthrough.changes sql = .ok [⟨c.table, .raw (kindOf ts) (Text.trim sql)⟩] := by
  rw [passthrough_of_tokens htokens]
  -- Unread texts and statements that are passed on are told from their tokens by both dialects.
  rcases hsingle with hnone | ⟨s, hone⟩
  · rw [basic_of_none htokens hnone] at hbasic
    exact unparsedChange_of_cons hbasic
  · rw [basic_of_one htokens hone] at hbasic
    cases hpassed : isPassedOn s with
    | true =>
      rw [ofStatement_of_isPassedOn htokens hpassed] at hbasic
      exact unparsedChange_of_cons hbasic
    | false => exact unparsedChange_plain (hplain s hone hpassed) hpassed hone hbasic

def qualifiedText : String := "create temporary table IF not exists shop.\x60order\x60 (id INT)"

def qualifiedTokens : List Token :=
  ["create", "temporary", "table", "IF", "not", "exists"].map wordToken ++
    .word "shop" false :: (dotted [("order", true)] ++
      [.symbol "(", wordToken "id", wordToken "INT", .symbol ")"])

def qualifiedStatement : Statement :=
  .createTable ⟨[⟨"shop", none⟩], ⟨"order", some '\x60'⟩⟩
    [⟨⟨"id", none⟩, .integer "INT" none false, []⟩] []

/-- A name that is qualified, quoted and spells a keyword is found by both dialects. -/
theorem qualifiedText_agrees :
    Sql.tokens qualifiedText = .ok qualifiedTokens ∧
      statements? qualifiedTokens = some [qualifiedStatement] ∧
      PlainlySpelled qualifiedTokens ∧
      Dialect.basic.changes qualifiedText =
        .ok [⟨"order", .createTable [.ofType "id" "INT"]⟩] ∧
      Dialect.passthrough.changes qualifiedText =
        .ok [⟨"order", .raw .create qualifiedText⟩] := by
  have htokens : Sql.tokens qualifiedText = .ok qualifiedTokens := by decide +kernel
  have hone : statements? qualifiedTokens = some [qualifiedStatement] := by rfl
  -- The words are those of a head, of fillers and of a name, which can be checked one by one.
  have hplain : PlainlySpelled qualifiedTokens := by
    refine @PlainlySpelled.intro ⟨["CREATE", "TEMPORARY"], "TABLE", .create⟩
      ["IF", "NOT", "EXISTS"] _ _ _ _ _ ?_ ?_ ?_ ?_ ?_ <;> decide +kernel
  have hbasic : Dialect.basic.changes qualifiedText =
      .ok [⟨"order", .createTable [.ofType "id" "INT"]⟩] := by
    rw [basic_of_one htokens hone]
    rfl
  refine ⟨htokens, hone, hplain, hbasic, ?_⟩
  rw [passthrough_follows_basic htokens (.inr ⟨_, hone⟩) (fun _ _ _ => hplain) hbasic]
  decide +kernel

def replacedText : String := "CREATE OR REPLACE TABLE t (a INT)"

def replacedTokens : List Token :=
  ["CREATE", "OR", "REPLACE", "TABLE", "t"].map wordToken ++
    [.symbol "(", wordToken "a", wordToken "INT", .symbol ")"]

/-- Where `OR REPLACE` stands between the words of the head, nothing is passed on. -/
theorem replacedText_differs :
    Sql.tokens replacedText = .ok replacedTokens ∧
      statements? replacedTokens =
        some [.createTable ⟨[], ⟨"t", none⟩⟩ [⟨⟨"a", none⟩, .integer "INT" none false, []⟩] []] ∧
      Dialect.basic.changes replacedText = .ok [⟨"t", .createTable [.ofType "a" "INT"]⟩] ∧
      Dialect.passthrough.changes replacedText = .ok [] := by
  have htokens : Sql.tokens replacedText = .ok replacedTokens := by decide +kernel
  have hone : statements? replacedTokens =
      some [.createTable ⟨[], ⟨"t", none⟩⟩ [⟨⟨"a", none⟩, .integer "INT" none false, []⟩] []] := by
    rfl
  refine ⟨htokens, hone, ?_, ?_⟩
  · rw [basic_of_one htokens hone]
    rfl
  · rw [passthrough_of_tokens htokens]
    decide +kernel

end ChangeFeed.Schema

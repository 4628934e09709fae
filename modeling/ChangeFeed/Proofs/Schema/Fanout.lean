import ChangeFeed.Proofs.Schema.Dialect
import ChangeFeed.Proofs.Sql.Pieces
import ChangeFeed.Proofs.Sql.Statements

/-!
# Schema changes: One change per clause

A list of clauses is written as one `ALTER TABLE`, with every name between backticks. Reading the
text back gives one change per clause, in the order of the clauses, whatever the names look like.

## Main results

* `splits_alterText`: the text splits into the tokens of its clauses.
* `alterClause_tokens`: every clause is read from its tokens.
* `changes_alterText`: the text makes the changes of its clauses, in order.
-/

namespace ChangeFeed.Schema

open Sql (Token AlterClause Column ColumnOption DataType)

/-! ## Clauses -/

/-- A name that can be written between backticks. -/
structure QuotableName where
  text : String
  nonempty : text ≠ ""
  plain : '\x60' ∉ text.toList

/-- A name between backticks. -/
def QuotableName.quoted (n : QuotableName) : String := "\x60" ++ n.text ++ "\x60"

/-- A column type in capitals. -/
inductive PlainType where
  | int
  | bigint
  | varchar (length : Nat) (positive : 0 < length) (fits : length < UInt64.size)

def PlainType.text : PlainType → String
  | int => "INT"
  | bigint => "BIGINT"
  | varchar length .. => "VARCHAR(" ++ toString length ++ ")"

/-- A column type, and whether the column may not be empty. -/
structure PlainDefinition where
  type : PlainType
  required : Bool

namespace PlainDefinition

def text (d : PlainDefinition) : String :=
  d.type.text ++ if d.required then " NOT NULL" else ""

/-- The column that a definition describes. -/
def spec (d : PlainDefinition) (n : QuotableName) : ColumnSpec where
  name := n.text
  typeName := d.type.text
  nullable := !d.required
  primaryKey := false
  defaultValue := none

end PlainDefinition

/-- A clause about one column. -/
inductive ColumnClause where
  | add (column : QuotableName) (definition : PlainDefinition)
  | drop (column : QuotableName)
  | modify (column : QuotableName) (definition : PlainDefinition)
  | change (old new : QuotableName) (definition : PlainDefinition)
  | rename (old new : QuotableName)

namespace ColumnClause

def text : ColumnClause → String
  | add c d => "ADD COLUMN " ++ c.quoted ++ " " ++ d.text
  | drop c => "DROP COLUMN " ++ c.quoted
  | modify c d => "MODIFY COLUMN " ++ c.quoted ++ " " ++ d.text
  | change old new d => "CHANGE COLUMN " ++ old.quoted ++ " " ++ new.quoted ++ " " ++ d.text
  | rename old new => "RENAME COLUMN " ++ old.quoted ++ " TO " ++ new.quoted

/-- The change that a clause stands for. A column that keeps its name is only modified. -/
def operation : ColumnClause → Operation
  | add c d => .addColumn (d.spec c)
  | drop c => .dropColumn c.text
  | modify c d => .modifyColumn (d.spec c)
  | change old new d =>
    if old.text = new.text then .modifyColumn (d.spec new)
    else .renameColumn old.text new.text (some (d.spec new))
  | rename old new => .renameColumn old.text new.text none

end ColumnClause

/-- The clauses as one statement about the table. -/
def alterText (table : QuotableName) (clauses : List ColumnClause) : String :=
  "ALTER TABLE " ++ table.quoted ++ " " ++ ", ".intercalate (clauses.map ColumnClause.text)

/-! ## Tokens -/

/-- A keyword as a token. -/
def bare (k : String) : Token := .word k false

/-- A name between backticks as a token. -/
def QuotableName.token (n : QuotableName) : Token := .word n.text true

def PlainType.tokens : PlainType → List Token
  | int => [bare "INT"]
  | bigint => [bare "BIGINT"]
  | varchar length .. =>
    [bare "VARCHAR", .symbol "(", .number (toString length) false, .symbol ")"]

def PlainDefinition.tokens (d : PlainDefinition) : List Token :=
  d.type.tokens ++ if d.required then [bare "NOT", bare "NULL"] else []

def ColumnClause.tokens : ColumnClause → List Token
  | add c d => bare "ADD" :: bare "COLUMN" :: c.token :: d.tokens
  | drop c => [bare "DROP", bare "COLUMN", c.token]
  | modify c d => bare "MODIFY" :: bare "COLUMN" :: c.token :: d.tokens
  | change old new d => bare "CHANGE" :: bare "COLUMN" :: old.token :: new.token :: d.tokens
  | rename old new => [bare "RENAME", bare "COLUMN", old.token, bare "TO", new.token]

/-- The clauses as tokens, with commas between them. -/
def listTokens (first : ColumnClause) (more : List ColumnClause) : List Token :=
  first.tokens ++ more.flatMap fun c => .symbol "," :: c.tokens

/-- What stands behind an item of a list: nothing, or a comma. -/
def EndsItem {α : Type} (comma : α) (rest : List α) : Prop :=
  rest = [] ∨ ∃ more, rest = comma :: more

section Splitting

open Sql.Lexer

variable {rest : List Char} {ts : List Token}

/-- A comma ends a word, and so does the end of the text. -/
theorem endsWord_of_endsItem (h : EndsItem ',' rest) : EndsWord rest := by
  rcases h with rfl | ⟨more, rfl⟩
  · exact endsWord_nil
  · exact endsWord_cons (by decide)

theorem endsWord_space (cs : List Char) : EndsWord (' ' :: cs) := endsWord_cons (by decide)

/-- Keywords with a blank behind each. -/
theorem splits_keywords {s : String} (ks : List String)
    (hs : s.toList = ks.flatMap fun k => k.toList ++ [' '])
    (hks : ∀ k ∈ ks, isPlainWord k = true) (h : Splits rest ts) :
    Splits (s.toList ++ rest) (ks.map bare ++ ts) := by
  rw [hs]
  clear hs
  -- The induction is on the keywords; the blank behind a keyword ends it as a word.
  induction ks with
  | nil => exact h
  | cons k ks ih =>
    have hmore := ih fun j hj => hks j (List.mem_cons_of_mem k hj)
    rw [List.flatMap_cons, List.append_assoc, List.append_assoc]
    exact splits_word (hks k List.mem_cons_self) (endsWord_space _) (splits_space hmore)

/-- What stands between the backticks does not matter: only a further one behind them could. -/
theorem QuotableName.splits (n : QuotableName) (hrest : rest.head? ≠ some '\x60')
    (h : Splits rest ts) : Splits (n.quoted.toList ++ rest) (n.token :: ts) := by
  have htext : n.quoted.toList ++ rest = '\x60' :: (n.text.toList ++ '\x60' :: rest) := by
    simp [quoted, String.toList_append]
  rw [htext]
  exact splits_backticks n.plain hrest h

/-- The words, the number and the brackets of a type. -/
theorem PlainType.splits (t : PlainType) (hrest : EndsWord rest) (h : Splits rest ts) :
    Splits (t.text.toList ++ rest) (t.tokens ++ ts) := by
  -- Only a length needs symbols around it; the other types are single words.
  cases t with
  | int => exact splits_word (by decide) hrest h
  | bigint => exact splits_word (by decide) hrest h
  | varchar length positive fits =>
    have hclosing : EndsWord (')' :: rest) := endsWord_cons (by decide)
    have hopening : EndsWord ('(' :: ((toString length).toList ++ ')' :: rest)) :=
      endsWord_cons (by decide)
    have hlength := splits_number length hclosing (splits_closing h)
    have hread := splits_word (w := "VARCHAR") (by decide) hopening (splits_opening hlength)
    simpa [text, tokens, bare, String.toList_append] using hread

/-- The type, with the words behind it. -/
theorem PlainDefinition.splits (d : PlainDefinition) (hrest : EndsWord rest) (h : Splits rest ts) :
    Splits (d.text.toList ++ rest) (d.tokens ++ ts) := by
  rw [text, tokens, String.toList_append, List.append_assoc, List.append_assoc]
  split
  · -- The words `NOT NULL` stand behind the type.
    have hnull := splits_word (w := "NULL") (by decide) hrest h
    have hnot := splits_word (w := "NOT") (by decide) (endsWord_space _) (splits_space hnull)
    exact d.type.splits (endsWord_space _) (splits_space hnot)
  · exact d.type.splits hrest h

/-- A clause may be followed by nothing but the next clause, as its last word must end there. -/
theorem ColumnClause.splits (c : ColumnClause) (hrest : EndsItem ',' rest) (h : Splits rest ts) :
    Splits (c.text.toList ++ rest) (c.tokens ++ ts) := by
  have hword : EndsWord rest := endsWord_of_endsItem hrest
  have hquoted : rest.head? ≠ some '\x60' := by rcases hrest with rfl | ⟨more, rfl⟩ <;> simp
  -- Each clause is split from its end, as every step needs the tokens of what stands behind it.
  cases c with
  | add c d =>
    have hcolumn := c.splits (by simp) (splits_space (d.splits hword h))
    have hread := splits_keywords (s := "ADD COLUMN ") ["ADD", "COLUMN"] (by decide) (by decide)
      hcolumn
    show Splits (("ADD COLUMN " ++ c.quoted ++ " " ++ d.text).toList ++ rest) _
    simp only [String.toList_append, List.append_assoc]
    exact hread
  | drop c =>
    have hread := splits_keywords (s := "DROP COLUMN ") ["DROP", "COLUMN"] (by decide)
      (by decide) (c.splits hquoted h)
    show Splits (("DROP COLUMN " ++ c.quoted).toList ++ rest) _
    simp only [String.toList_append, List.append_assoc]
    exact hread
  | modify c d =>
    have hcolumn := c.splits (by simp) (splits_space (d.splits hword h))
    have hread := splits_keywords (s := "MODIFY COLUMN ") ["MODIFY", "COLUMN"] (by decide)
      (by decide) hcolumn
    show Splits (("MODIFY COLUMN " ++ c.quoted ++ " " ++ d.text).toList ++ rest) _
    simp only [String.toList_append, List.append_assoc]
    exact hread
  | change old new d =>
    have hnew := new.splits (by simp) (splits_space (d.splits hword h))
    have hold := old.splits (by simp) (splits_space hnew)
    have hread := splits_keywords (s := "CHANGE COLUMN ") ["CHANGE", "COLUMN"] (by decide)
      (by decide) hold
    show Splits (("CHANGE COLUMN " ++ old.quoted ++ " " ++ new.quoted ++ " " ++ d.text).toList ++
      rest) _
    simp only [String.toList_append, List.append_assoc]
    exact hread
  | rename old new =>
    have hnew := splits_keywords (s := "TO ") ["TO"] (by decide) (by decide)
      (new.splits hquoted h)
    have hold := old.splits (by simp) (splits_space hnew)
    have hread := splits_keywords (s := "RENAME COLUMN ") ["RENAME", "COLUMN"] (by decide)
      (by decide) hold
    show Splits (("RENAME COLUMN " ++ old.quoted ++ " TO " ++ new.quoted).toList ++ rest) _
    -- Only the quoted name stands last here, so that nothing is asked of the rest but no backtick.
    simp only [String.toList_append, List.append_assoc]
    exact hread

/-- The clauses with commas between them. -/
theorem splits_clauses (first : ColumnClause) (more : List ColumnClause) :
    Splits (", ".intercalate ((first :: more).map ColumnClause.text)).toList
      (listTokens first more) := by
  -- The induction is on the clauses behind the first; a comma stands in front of each of them.
  induction more generalizing first with
  | nil =>
    have hread := first.splits (.inl rfl) .done
    simpa [listTokens] using hread
  | cons second more ih =>
    -- The first clause is ended by the comma, and the rest begins behind the blank.
    have hread := first.splits (.inr ⟨_, rfl⟩) (splits_comma (splits_space (ih second)))
    rw [List.map_cons, List.map_cons, String.intercalate_cons_cons, String.append_assoc,
      String.toList_append, String.toList_append]
    exact hread

/-- The whole text, from its keywords on. -/
theorem splits_alterText (table : QuotableName) (first : ColumnClause)
    (more : List ColumnClause) :
    Splits (alterText table (first :: more)).toList
      (bare "ALTER" :: bare "TABLE" :: table.token :: listTokens first more) := by
  have htable := table.splits (by simp) (splits_space (splits_clauses first more))
  have hread := splits_keywords (s := "ALTER TABLE ") ["ALTER", "TABLE"] (by decide) (by decide)
    htable
  rw [alterText, String.append_assoc, String.append_assoc, String.toList_append,
    String.toList_append, String.toList_append]
  exact hread

end Splitting

/-! ## Reading a clause -/

def PlainType.dataType : PlainType → DataType
  | int => .integer "INT" none false
  | bigint => .integer "BIGINT" none false
  | varchar length .. => .text "VARCHAR" (some (.exact length none))

/-- The type is shown as it was written. -/
theorem PlainType.render_dataType (t : PlainType) : t.dataType.render = t.text := by
  cases t <;> rfl

namespace PlainDefinition

def options (d : PlainDefinition) : List ColumnOption := if d.required then [.notNull] else []

def column (d : PlainDefinition) (n : QuotableName) : Column :=
  ⟨⟨n.text, some '\x60'⟩, d.type.dataType, d.options⟩

/-- The column as it is read says what the definition describes. -/
theorem ofColumn_column (d : PlainDefinition) (n : QuotableName) :
    ColumnSpec.ofColumn (d.column n) = d.spec n := by
  unfold ColumnSpec.ofColumn column options spec
  rw [d.type.render_dataType]
  cases d.required <;> rfl

end PlainDefinition

namespace ColumnClause

/-- A clause as it is read. -/
def clause : ColumnClause → AlterClause
  | add c d => .addColumn (d.column c)
  | drop c => .dropColumn ⟨c.text, some '\x60'⟩
  | modify c d => .modifyColumn (d.column c)
  | change old new d => .changeColumn ⟨old.text, some '\x60'⟩ (d.column new)
  | rename old new => .renameColumn ⟨old.text, some '\x60'⟩ ⟨new.text, some '\x60'⟩

/-- A clause makes the change that it stands for. -/
theorem ofClause_clause (c : ColumnClause) : ofClause c.clause = some c.operation := by
  cases c with
  | add c d => simp only [clause, ofClause, operation, d.ofColumn_column]
  | drop c => rfl
  | modify c d => simp only [clause, ofClause, operation, d.ofColumn_column]
  | change old new d =>
    -- Which of the two changes it is depends on the names alone.
    have hname : (d.column new).name.text = new.text := rfl
    simp only [clause, ofClause, operation, d.ofColumn_column, hname]
    split <;> rfl
  | rename old new => rfl

end ColumnClause

section Reading

open Sql (Parse)
open Sql.Parse

variable {inner : Inner} {rest : List Token}

/-- Behind a type stands the end of its clause, or what else is said about the column. -/
theorem dataType_tokens (t : PlainType)
    (hrest : EndsItem (.symbol ",") rest ∨ ∃ more, rest = bare "NOT" :: more) :
    dataType (t.tokens ++ rest) = .ok (t.dataType, rest) := by
  have hbracket : rest.head? ≠ some (.symbol "[") := by
    rcases hrest with (rfl | ⟨more, rfl⟩) | ⟨more, rfl⟩ <;> simp [bare]
  cases t with
  | int =>
    refine dataType_builtin rfl ?_ hbracket
    rcases hrest with (rfl | ⟨more, rfl⟩) | ⟨more, rfl⟩ <;> rfl
  | bigint =>
    refine dataType_builtin rfl ?_ hbracket
    rcases hrest with (rfl | ⟨more, rfl⟩) | ⟨more, rfl⟩ <;> rfl
  | varchar length positive fits =>
    -- The length fits, so its digits are read as the number they spell.
    have hdigits : decimal? (UInt64.size - 1) (toString length) = some length :=
      decimal?_toString (by omega)
    exact dataType_builtin rfl (bind_of_ok (textLength?_whole hdigits rest) _) hbracket

/-- The type of a column, with its options still ahead. -/
theorem dataType_definition (d : PlainDefinition) (hrest : EndsItem (.symbol ",") rest) :
    dataType (d.tokens ++ rest) =
      .ok (d.type.dataType, (if d.required then [bare "NOT", bare "NULL"] else []) ++ rest) := by
  rw [PlainDefinition.tokens, List.append_assoc]
  refine dataType_tokens d.type ?_
  split
  · exact .inr ⟨_, rfl⟩
  · exact .inl hrest

theorem ident_token (n : QuotableName) (ts : List Token) :
    ident (n.token :: ts) = .ok (⟨n.text, some '\x60'⟩, ts) := rfl

/-- A new column, up to the end of its clause. -/
theorem column_tokens (n : QuotableName) (d : PlainDefinition)
    (hrest : EndsItem (.symbol ",") rest) :
    column inner (n.token :: (d.tokens ++ rest)) = .ok (d.column n, rest) := by
  rw [column, bind_of_ok (ident_token n _), bind_of_ok (dataType_definition d hrest),
    PlainDefinition.column, PlainDefinition.options]
  -- What is left are the words behind the type, which are the same for every name.
  cases d.required <;> rcases hrest with rfl | ⟨more, rfl⟩ <;> rfl

/-- A changed column, up to the end of its clause. -/
theorem columnChange_tokens (n : QuotableName) (d : PlainDefinition)
    (hrest : EndsItem (.symbol ",") rest) :
    columnChange inner (n.token :: (d.tokens ++ rest)) = .ok (d.column n, rest) := by
  rw [columnChange, bind_of_ok (ident_token n _), bind_of_ok (dataType_definition d hrest),
    PlainDefinition.column, PlainDefinition.options]
  cases d.required <;> rcases hrest with rfl | ⟨more, rfl⟩ <;> rfl

/-- No place for a column is named where its clause ends. -/
theorem columnPlace?_endsItem (hrest : EndsItem (.symbol ",") rest) :
    columnPlace? rest = .ok ((), rest) := by
  rcases hrest with rfl | ⟨more, rfl⟩ <;> rfl

/-! What is left to read behind the keywords of a clause. -/

theorem alterClause_add (ts : List Token) :
    alterClause inner (bare "ADD" :: bare "COLUMN" :: ts) =
      (do
        let c ← column inner
        columnPlace?
        return AlterClause.addColumn c : Parse AlterClause) ts := rfl

theorem alterClause_modify (ts : List Token) :
    alterClause inner (bare "MODIFY" :: bare "COLUMN" :: ts) =
      (do
        let c ← columnChange inner
        return AlterClause.modifyColumn c : Parse AlterClause) ts := rfl

theorem alterClause_change (ts : List Token) :
    alterClause inner (bare "CHANGE" :: bare "COLUMN" :: ts) =
      (do
        let old ← ident
        let c ← columnChange inner
        return AlterClause.changeColumn old c : Parse AlterClause) ts := rfl

/-- **Every clause** is read from its tokens, up to the comma behind it. -/
theorem alterClause_tokens (c : ColumnClause) (hrest : EndsItem (.symbol ",") rest) :
    alterClause inner (c.tokens ++ rest) = .ok (c.clause, rest) := by
  -- The keywords are passed by computation, the names and types by their own lemmas.
  cases c with
  | add c d =>
    refine (alterClause_add (c.token :: (d.tokens ++ rest))).trans ?_
    rw [bind_of_ok (column_tokens c d hrest), bind_of_ok (columnPlace?_endsItem hrest)]
    rfl
  | drop c => rcases hrest with rfl | ⟨more, rfl⟩ <;> rfl
  | modify c d =>
    refine (alterClause_modify (c.token :: (d.tokens ++ rest))).trans ?_
    rw [bind_of_ok (columnChange_tokens c d hrest)]
    rfl
  | change old new d =>
    refine (alterClause_change (old.token :: new.token :: (d.tokens ++ rest))).trans ?_
    rw [bind_of_ok (ident_token old _), bind_of_ok (columnChange_tokens new d hrest)]
    rfl
  | rename old new => rfl

/-! ## Reading the statement -/

variable (table : QuotableName) (first : ColumnClause) (more : List ColumnClause)

/-- The clauses are read one by one: each ends where the comma of the next stands. -/
theorem alterClauses_tokens :
    commaSeparated (alterClause inner) (listTokens first more) =
      .ok ((first :: more).map ColumnClause.clause, []) := by
  have hread : commaSeparated (alterClause inner)
      (first.tokens ++ (more.flatMap (fun c => .symbol "," :: c.tokens) ++ [])) =
      .ok ((first :: more).map ColumnClause.clause, []) :=
    commaSeparated_of_each (EndsItem (.symbol ",")) (.inl rfl) (by simp) (fun ts => .inr ⟨ts, rfl⟩)
      fun c _ _ hbehind => alterClause_tokens c hbehind
  rwa [List.append_nil] at hread

/-- No clause begins with words that may stand between a table and its clauses. -/
theorem cluster?_tokens : cluster? (listTokens first more) = .ok ((), listTokens first more) := by
  cases first <;> rfl

/-- The name of the table is not continued by a dot. -/
theorem name_token :
    name (table.token :: listTokens first more) =
      .ok (⟨[], ⟨table.text, some '\x60'⟩⟩, listTokens first more) := by
  refine name_dotted table.text true [] ?_
  cases first <;> simp [ColumnClause.tokens, bare]

/-- The statement behind its keywords. -/
theorem alterTable_tokens :
    alterTable inner (table.token :: listTokens first more) =
      .ok (.alterTable ⟨[], ⟨table.text, some '\x60'⟩⟩ ((first :: more).map ColumnClause.clause),
        []) := by
  -- A name between backticks is no keyword, so that none of the optional words is found.
  have hnot : ∀ k, headKeyword (table.token :: listTokens first more) ≠ some k := by
    simp [QuotableName.token]
  rw [alterTable, bind_of_ok (keywords?_of_ne (hnot _) _), bind_of_ok (keyword?_of_ne (hnot _)),
    bind_of_ok (name_token table first more), bind_of_ok (cluster?_tokens first more),
    bind_of_ok (alterClauses_tokens first more)]
  rfl

/-- The whole text is one statement. -/
theorem statements?_alterTable :
    Sql.statements? (bare "ALTER" :: bare "TABLE" :: table.token :: listTokens first more) =
      some [.alterTable ⟨[], ⟨table.text, some '\x60'⟩⟩
        ((first :: more).map ColumnClause.clause)] :=
  Sql.statements?_of_statement (by simp) (by simp [bare]) (alterTable_tokens table first more)

end Reading

/-! ## The whole text -/

/-- **One change per clause**: a list of clauses that is written as one statement is told clause by
clause, with the names, types and nullabilities of each. -/
theorem changes_alterText (table : QuotableName) (clauses : List ColumnClause)
    (hclauses : clauses ≠ []) :
    Dialect.basic.changes (alterText table clauses) =
      .ok (clauses.map fun c => ⟨table.text, c.operation⟩) := by
  obtain ⟨first, more, rfl⟩ := List.exists_cons_of_ne_nil hclauses
  have htokens := Sql.tokens_eq_ok_iff.2 (splits_alterText table first more)
  have hoperations : ofClause ∘ ColumnClause.clause = some ∘ ColumnClause.operation :=
    funext ColumnClause.ofClause_clause
  rw [basic_of_one htokens (statements?_alterTable table first more), ofStatement,
    List.filterMap_map, hoperations, List.filterMap_eq_map, List.map_map]
  rfl

/-! Names that look like other parts of a statement. -/

def awkwardTable : QuotableName := ⟨"IF EXISTS", by decide, by decide⟩

/-- A clause of every kind, and both ways to keep or change a name. -/
def awkwardClauses : List ColumnClause :=
  [.add ⟨"NOT NULL", by decide, by decide⟩
      ⟨.varchar 18446744073709551615 (by decide) (by decide), true⟩,
    .drop ⟨"a, DROP COLUMN b", by decide, by decide⟩,
    .modify ⟨"-- 'c", by decide, by decide⟩ ⟨.bigint, false⟩,
    .change ⟨"/* d", by decide, by decide⟩ ⟨"/* d", by decide, by decide⟩ ⟨.int, true⟩,
    .change ⟨"e", by decide, by decide⟩ ⟨"\\\"e", by decide, by decide⟩ ⟨.int, false⟩,
    .rename ⟨"TO", by decide, by decide⟩ ⟨";\n", by decide, by decide⟩]

def awkwardText : String :=
  "ALTER TABLE \x60IF EXISTS\x60 " ++
    "ADD COLUMN \x60NOT NULL\x60 VARCHAR(18446744073709551615) NOT NULL, " ++
    "DROP COLUMN \x60a, DROP COLUMN b\x60, MODIFY COLUMN \x60-- 'c\x60 BIGINT, " ++
    "CHANGE COLUMN \x60/* d\x60 \x60/* d\x60 INT NOT NULL, " ++
    "CHANGE COLUMN \x60e\x60 \x60\\\"e\x60 INT, RENAME COLUMN \x60TO\x60 TO \x60;\n\x60"

/-- Names with keywords, commas, comment signs, quotes and line ends in them. -/
theorem awkwardText_fans_out :
    awkwardClauses ≠ [] ∧ awkwardText = alterText awkwardTable awkwardClauses ∧
      Dialect.basic.changes awkwardText =
        .ok [⟨"IF EXISTS",
            .addColumn ⟨"NOT NULL", "VARCHAR(18446744073709551615)", false, false, none⟩⟩,
          ⟨"IF EXISTS", .dropColumn "a, DROP COLUMN b"⟩,
          ⟨"IF EXISTS", .modifyColumn ⟨"-- 'c", "BIGINT", true, false, none⟩⟩,
          ⟨"IF EXISTS", .modifyColumn ⟨"/* d", "INT", false, false, none⟩⟩,
          ⟨"IF EXISTS",
            .renameColumn "e" "\\\"e" (some ⟨"\\\"e", "INT", true, false, none⟩)⟩,
          ⟨"IF EXISTS", .renameColumn "TO" ";\n" none⟩] := by
  have hne : awkwardClauses ≠ [] := List.cons_ne_nil _ _
  have htext : awkwardText = alterText awkwardTable awkwardClauses := by decide +kernel
  refine ⟨hne, htext, ?_⟩
  rw [htext, changes_alterText awkwardTable awkwardClauses hne]
  rfl

end ChangeFeed.Schema

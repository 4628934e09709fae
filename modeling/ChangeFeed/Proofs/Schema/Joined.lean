import ChangeFeed.Proofs.Schema.Dialect
import Mathlib.Data.List.Basic

/-!
# Schema changes: Several statements in one text

The statements of a text are told one after the other. A statement whose structure is told makes the
same changes among others as by itself. One that is passed on is told from its canonical text there,
and from the text as it stands where it is the only one. All of this holds under any grammar,
whichever statements it knows and whatever their canonical texts are.

## Main results

* `ofStatements_eq`: what several statements are told as, one by one.
* `joined_told_in_order`: joined texts make the changes of each, as far as the statements that are
  passed on are told the same from their canonical texts.
-/

namespace ChangeFeed.Schema

open Sql (Token Statement Grammar statements?)

/-- The text of a statement does not matter if its structure is told. -/
theorem ofStatement_congr {s : Statement} (hs : isPassedOn s = false) (sql sql' : String) :
    ofStatement sql s = ofStatement sql' s := by
  cases s with
  | renameTables pairs => cases hs
  | other text => cases hs
  | _ => rfl

section AnyGrammar

variable [Grammar]

/-! ## Single texts -/

/-- The text is read as these statements. -/
def Holds (sql : String) (ss : List Statement) : Prop := Grammar.read? sql = some ss

/-- A text that holds a single statement, and the changes that it makes. -/
structure SingleText where
  text : String
  statement : Statement
  changes : List TableChange
  holds : Holds text [statement]
  told : Dialect.basic.changes text = .ok changes

/-- Texts with semicolons between them. -/
def joined (ps : List SingleText) : String := "; ".intercalate (ps.map SingleText.text)

/-- The changes of a statement among others: one that is passed on is read again from its canonical
text. -/
def retold (p : SingleText) : Except Rejection (List TableChange) :=
  if isPassedOn p.statement then Dialect.passthrough.changes p.statement.text else .ok p.changes

/-! ## One by one -/

/-- The changes of a single text are those of its statement, read from the text as it stands. -/
theorem ofStatement_statement (p : SingleText) :
    ofStatement p.text p.statement = .ok p.changes := by
  rw [← basic_of_single p.holds, p.told]

/-- Among others, a statement makes the changes that it is told again with. -/
theorem ofStatementAmong_eq (p : SingleText) : ofStatementAmong p.statement = retold p := by
  unfold ofStatementAmong retold
  split
  · next hs => exact ofStatement_eq_passthrough hs
  · -- The statement is not told from any text, so that of its own serves as well as the canonical
    -- one.
    next hs => rw [ofStatement_congr (Bool.not_eq_true _ ▸ hs) _ p.text, ofStatement_statement]

/-- Several statements are told one by one, up to the first that is rejected. -/
theorem ofStatements_eq (ps : List SingleText) :
    ofStatements (ps.map SingleText.statement) = (ps.mapM retold).map List.flatten := by
  induction ps with
  | nil => rfl
  | cons p ps ih =>
    rw [List.map_cons, ofStatements, ofStatementAmong_eq, ih, List.mapM_cons]
    -- Both sides stop at the first statement that is rejected.
    cases retold p with
    | error e => rfl
    | ok first =>
      cases ps.mapM retold with
      | error e => rfl
      | ok more => rfl

/-- If nothing changes among others, the changes of all are those of each. -/
theorem mapM_of_forall {ps : List SingleText} (h : ∀ p ∈ ps, retold p = .ok p.changes) :
    ps.mapM retold = .ok (ps.map SingleText.changes) := by
  induction ps with
  | nil => rfl
  | cons p ps ih =>
    rw [List.mapM_cons, h p List.mem_cons_self, ih fun q hq => h q (List.mem_cons_of_mem p hq)]
    rfl

/-! ## Joined texts -/

/-- A statement whose structure is told makes the same changes among others. -/
theorem retold_of_not_isPassedOn {p : SingleText} (hp : isPassedOn p.statement = false) :
    retold p = .ok p.changes := by
  rw [retold, hp, if_neg Bool.false_ne_true]

/-- So does a statement that is written as its canonical text. -/
theorem retold_of_canonical {p : SingleText} (hp : p.text = p.statement.text) :
    retold p = .ok p.changes := by
  cases hpassed : isPassedOn p.statement with
  | false => exact retold_of_not_isPassedOn hpassed
  | true =>
    -- The text that is passed on is the canonical one, and so are the tokens that its table is
    -- found in.
    rw [retold, hpassed, if_pos rfl, ← hp, ← ofStatement_eq_passthrough hpassed,
      ofStatement_statement]

/-- **In order**: several texts, joined, are told one by one, as statements among others. They make
the changes of each in order if it is a single one, or if each is told the same among others. -/
theorem joined_told_in_order (ps : List SingleText)
    (hjoined : Holds (joined ps) (ps.map SingleText.statement)) :
    (ps.length ≠ 1 →
        Dialect.basic.changes (joined ps) = (ps.mapM retold).map List.flatten) ∧
      (ps.length = 1 ∨ (∀ p ∈ ps, retold p = .ok p.changes) →
        Dialect.basic.changes (joined ps) = .ok (ps.flatMap SingleText.changes)) := by
  have hseveral : ps.length ≠ 1 →
      Dialect.basic.changes (joined ps) = (ps.mapM retold).map List.flatten := fun hlength => by
    rw [basic_of_list hjoined (by simpa using hlength), ofStatements_eq]
  have hone : ps.length = 1 →
      Dialect.basic.changes (joined ps) = .ok (ps.flatMap SingleText.changes) := fun hlength => by
    obtain ⟨p, rfl⟩ := List.length_eq_one_iff.1 hlength
    simp [joined, p.told]
  refine ⟨hseveral, fun hsame => ?_⟩
  -- A single statement keeps its own text; it need not be told the same from its canonical one.
  by_cases hlength : ps.length = 1
  · exact hone hlength
  · rw [hseveral hlength, mapM_of_forall (hsame.resolve_left hlength), List.flatMap_def]
    rfl

end AnyGrammar

/-! Two texts that give a table a new name, one of them the canonical text, and one text whose
structure is told. -/

def newName : Statement := .renameTables [(⟨[], ⟨"a", none⟩⟩, ⟨[], ⟨"b", none⟩⟩)]

/-- The words of the statement, in some letter case. -/
def newNameTokens (first second fourth : String) : List Token :=
  [.word first false, .word second false, .word "a" false, .word fourth false, .word "b" false]

def newNameText (sql first second fourth : String)
    (htokens : Sql.tokens sql = .ok (newNameTokens first second fourth))
    (hread : statements? (newNameTokens first second fourth) = some [newName])
    (hraw : unparsedChange sql (newNameTokens first second fourth) =
      .ok [⟨"a", .raw .rename sql⟩]) : SingleText where
  text := sql
  statement := newName
  changes := [⟨"a", .raw .rename sql⟩]
  holds := (read?_of_tokens htokens).trans hread
  told := by rw [basic_of_one htokens hread, ofStatement_of_isPassedOn htokens rfl, hraw]

def capitals : SingleText :=
  newNameText "RENAME TABLE a TO b" "RENAME" "TABLE" "TO" (by decide +kernel) rfl
    (by decide +kernel)

def smallLetters : SingleText :=
  newNameText "rename table a to b" "rename" "table" "to" (by decide +kernel) rfl
    (by decide +kernel)

def emptyingTokens : List Token := [.word "truncate" false, .word "c" false]

theorem tokens_emptying : Sql.tokens "truncate c" = .ok emptyingTokens := by decide +kernel

def emptying : SingleText where
  text := "truncate c"
  statement := .truncateTables [⟨[], ⟨"c", none⟩⟩]
  changes := [⟨"c", .truncateTable⟩]
  holds := read?_of_tokens tokens_emptying
  told := by
    rw [basic_of_one tokens_emptying rfl]
    rfl

/-- The canonical text keeps its change, whatever statements stand around it. -/
theorem capitals_told_in_order :
    Holds (joined [emptying, capitals]) [emptying.statement, capitals.statement] ∧
      Dialect.basic.changes "truncate c; RENAME TABLE a TO b" =
        .ok [⟨"c", .truncateTable⟩, ⟨"a", .raw .rename "RENAME TABLE a TO b"⟩] := by
  have htokens : Sql.tokens (joined [emptying, capitals]) =
      .ok (emptyingTokens ++ .symbol ";" :: newNameTokens "RENAME" "TABLE" "TO") := by
    decide +kernel
  have hjoined : Holds (joined [emptying, capitals]) [emptying.statement, capitals.statement] :=
    read?_of_tokens htokens
  have hsame : ∀ p ∈ [emptying, capitals], retold p = .ok p.changes := by
    rw [List.forall_mem_cons, List.forall_mem_singleton]
    -- The statement told by its structure needs no condition; the other one is written canonically.
    refine ⟨retold_of_not_isPassedOn rfl, retold_of_canonical ?_⟩
    decide +kernel
  refine ⟨hjoined, ?_⟩
  exact (joined_told_in_order [emptying, capitals] hjoined).2 (.inr hsame)

/-- In small letters, the same statement is passed on in capitals once another one stands behind
it. -/
theorem smallLetters_change :
    Holds (joined [smallLetters, emptying]) [smallLetters.statement, emptying.statement] ∧
      smallLetters.changes = [⟨"a", .raw .rename "rename table a to b"⟩] ∧
      Dialect.basic.changes (joined [smallLetters, emptying]) =
        .ok [⟨"a", .raw .rename "RENAME TABLE a TO b"⟩, ⟨"c", .truncateTable⟩] := by
  have htokens : Sql.tokens (joined [smallLetters, emptying]) =
      .ok (newNameTokens "rename" "table" "to" ++ .symbol ";" :: emptyingTokens) := by
    decide +kernel
  have hread : statements? (newNameTokens "rename" "table" "to" ++ .symbol ";" :: emptyingTokens) =
      some [smallLetters.statement, emptying.statement] := rfl
  refine ⟨(read?_of_tokens htokens).trans hread, rfl, ?_⟩
  rw [basic_of_several htokens hread (by decide)]
  decide +kernel

end ChangeFeed.Schema

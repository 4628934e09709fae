import ChangeFeed.Proofs.Schema.Joined
import Mathlib.Data.List.Forall2
import Mathlib.Data.List.Induction

/-!
# Schema changes: Keys and nulls

A column belongs to the primary key by an option of its own, or by a constraint that lists its name.
Either way it is entered as not nullable. The options are entered one after the other, and only then
the constraints, so an option `NULL` that stands behind the key takes back that the column is not
nullable, unless a constraint lists the column as well.

## Main results

* `primaryKey_foldl_iff`, `nullable_foldl_iff`: what the options of a column come to.
* `entered_ofStatement`: the definitions that a statement tells are those of its columns, in order.
* `keys_told_as_declared`: which columns of a text are told as keys, and which keys as nullable.
-/

namespace ChangeFeed.Schema

open Sql (AlterClause Column ColumnOption Constraint Statement Token)

/-! ## Columns in statements and in changes -/

/-- The definitions of columns that a change tells. -/
def Operation.definitions : Operation → List ColumnSpec
  | .createTable columns => columns
  | .addColumn column | .modifyColumn column => [column]
  | .renameColumn _ _ definition => definition.toList
  | .dropTable | .truncateTable | .renameTable _ | .dropColumn _ | .raw .. => []

/-- A column as a statement declares it, with the constraints that stand beside it. -/
structure Declaration where
  column : Column
  constraints : List Constraint

/-- The columns that a clause declares; a new type is all that some of them have. -/
def clauseDeclarations : AlterClause → List Declaration
  | .addColumn c | .modifyColumn c | .changeColumn _ c => [⟨c, []⟩]
  | .setType name type => [⟨⟨name, type, []⟩, []⟩]
  | .dropColumn _ | .renameColumn .. | .renameTable _ | .other => []

/-- The columns that a statement declares, in order. -/
def declarations : Statement → List Declaration
  | .createTable _ columns constraints => columns.map fun c => ⟨c, constraints⟩
  | .alterTable _ clauses => clauses.flatMap clauseDeclarations
  | .dropTables _ | .truncateTables _ | .renameTables _ | .other _ => []

namespace Declaration

/-- A constraint lists the column as one of the primary key. -/
def IsListed (d : Declaration) : Prop :=
  ∃ names, Constraint.primaryKey names ∈ d.constraints ∧ ∃ i ∈ names, i.text = d.column.name.text

/-- An option of the column says that it is the primary key. -/
def IsInlineKey (d : Declaration) : Prop := ColumnOption.primaryKey ∈ d.column.options

end Declaration

/-! ## Options one after the other -/

/-- The last option that says whether there are nulls is `NULL`: behind it there is neither
`PRIMARY KEY` nor `NOT NULL`. -/
def EndsNullable (options : List ColumnOption) : Prop :=
  ∃ before after, options = before ++ .nullable :: after ∧
    ColumnOption.primaryKey ∉ after ∧ ColumnOption.notNull ∉ after

section Options

variable {options : List ColumnOption} {o : ColumnOption}

/-- Without options nothing ends so. -/
theorem not_endsNullable_nil : ¬ EndsNullable [] := by
  rintro ⟨before, after, heq, -⟩
  exact List.append_ne_nil_of_right_ne_nil before (List.cons_ne_nil _ after) heq.symm

/-- A `NULL` at the end takes back what stands before it. -/
theorem endsNullable_concat_nullable : EndsNullable (options ++ [.nullable]) :=
  ⟨options, [], rfl, List.not_mem_nil, List.not_mem_nil⟩

/-- One more option that is not `NULL` leaves it at that, unless it says otherwise. -/
theorem endsNullable_concat_iff (ho : o ≠ .nullable) :
    EndsNullable (options ++ [o]) ↔ (o ≠ .primaryKey ∧ o ≠ .notNull) ∧ EndsNullable options := by
  constructor
  · rintro ⟨before, after, heq, hkey, hnot⟩
    -- The option at the end is not the `NULL`, so it stands behind it.
    obtain rfl | ⟨after, last, rfl⟩ := after.eq_nil_or_concat
    · exact absurd (List.append_inj_right' heq rfl) (by simpa using ho)
    · rw [List.concat_eq_append, ← List.cons_append, ← List.append_assoc] at heq
      obtain ⟨rfl, hlast⟩ := List.append_inj' heq rfl
      cases List.singleton_inj.1 hlast
      simp only [List.concat_eq_append, List.mem_append, List.mem_singleton, not_or] at hkey hnot
      exact ⟨⟨fun h => hkey.2 h.symm, fun h => hnot.2 h.symm⟩, before, after, rfl, hkey.1, hnot.1⟩
  · rintro ⟨⟨hkey, hnot⟩, before, after, rfl, hkey', hnot'⟩
    refine ⟨before, after ++ [o], by simp, ?_, ?_⟩
    · simp [hkey', hkey.symm]
    · simp [hnot', hnot.symm]

/-- A key stays a key, whatever options stand behind. -/
theorem primaryKey_foldl_iff (c : ColumnSpec) :
    (options.foldl ColumnSpec.withOption c).primaryKey = true ↔
      ColumnOption.primaryKey ∈ options ∨ c.primaryKey = true := by
  -- Options count in the order they are written, so the induction adds them at the end.
  induction options using List.reverseRecOn with
  | nil => simp
  | append_singleton options o ih =>
    rw [List.foldl_concat, List.mem_append, List.mem_singleton]
    cases o <;> simp [ColumnSpec.withOption, ih]

/-- The last option that says whether there are nulls decides; without one, all is as before. -/
theorem nullable_foldl_iff (c : ColumnSpec) :
    (options.foldl ColumnSpec.withOption c).nullable = true ↔
      EndsNullable options ∨ ColumnOption.primaryKey ∉ options ∧ ColumnOption.notNull ∉ options ∧
        c.nullable = true := by
  induction options using List.reverseRecOn with
  | nil => simp [not_endsNullable_nil]
  | append_singleton options o ih =>
    rw [List.foldl_concat, List.mem_append, List.mem_append, List.mem_singleton,
      List.mem_singleton]
    -- The new option decides by itself, or leaves it to those before it.
    cases o with
    | nullable => simp [ColumnSpec.withOption, endsNullable_concat_nullable]
    | notNull => simp [ColumnSpec.withOption, endsNullable_concat_iff]
    | primaryKey => simp [ColumnSpec.withOption, endsNullable_concat_iff]
    | defaultsTo e => simp [ColumnSpec.withOption, endsNullable_concat_iff, ih]
    | other => simp [ColumnSpec.withOption, endsNullable_concat_iff, ih]

/-- No option changes the name of a column. -/
theorem name_foldl (c : ColumnSpec) : (options.foldl ColumnSpec.withOption c).name = c.name := by
  induction options using List.reverseRecOn with
  | nil => rfl
  | append_singleton options o ih =>
    rw [List.foldl_concat, ← ih]
    cases o <;> rfl

end Options

/-! ## Definitions of columns -/

/-- The definition is that of the declared column: it is a key if an option or a constraint says so,
and a key is nullable only if its own options end with `NULL` and no constraint lists it. -/
structure Enters (definition : ColumnSpec) (d : Declaration) : Prop where
  name_eq : definition.name = d.column.name.text
  primaryKey_iff : definition.primaryKey = true ↔ d.IsInlineKey ∨ d.IsListed
  nullable_key_iff : definition.primaryKey = true ∧ definition.nullable = true ↔
    d.IsInlineKey ∧ EndsNullable d.column.options ∧ ¬ d.IsListed

/-- The columns that are keys are those that some constraint lists. -/
theorem mem_keyColumns_iff {constraints : List Constraint} {name : String} :
    name ∈ keyColumns constraints ↔
      ∃ names, Constraint.primaryKey names ∈ constraints ∧ ∃ i ∈ names, i.text = name := by
  rw [keyColumns, List.mem_flatMap]
  -- Other constraints list no column.
  constructor
  · rintro ⟨constraint, hmem, hname⟩
    cases constraint with
    | primaryKey names => exact ⟨names, hmem, List.mem_map.1 hname⟩
    | other => cases hname
  · rintro ⟨names, hmem, hname⟩
    exact ⟨.primaryKey names, hmem, List.mem_map.2 hname⟩

/-- A column among its constraints: the constraints count after all options of its own. -/
theorem enters_inKey (c : Column) (constraints : List Constraint) :
    Enters ((ColumnSpec.ofColumn c).inKey (keyColumns constraints)) ⟨c, constraints⟩ := by
  have hname : (ColumnSpec.ofColumn c).name = c.name.text := name_foldl _
  have hkey : (ColumnSpec.ofColumn c).primaryKey = true ↔ ColumnOption.primaryKey ∈ c.options := by
    rw [ColumnSpec.ofColumn, primaryKey_foldl_iff]
    simp [ColumnSpec.ofType]
  have hnull : (ColumnSpec.ofColumn c).nullable = true ↔ EndsNullable c.options ∨
      ColumnOption.primaryKey ∉ c.options ∧ ColumnOption.notNull ∉ c.options := by
    rw [ColumnSpec.ofColumn, nullable_foldl_iff]
    simp [ColumnSpec.ofType]
  -- Constraints speak of a column by its name.
  have hlisted : (keyColumns constraints).contains (ColumnSpec.ofColumn c).name = true ↔
      Declaration.IsListed ⟨c, constraints⟩ := by
    rw [List.contains_iff_mem, hname, mem_keyColumns_iff]
    rfl
  unfold ColumnSpec.inKey
  split
  next hin =>
    have hlist := hlisted.1 hin
    exact ⟨hname, by simp [hlist], by simp [hlist]⟩
  next hout =>
    have hfree : ¬ Declaration.IsListed ⟨c, constraints⟩ := mt hlisted.2 hout
    refine ⟨hname, by simp [hkey, hfree, Declaration.IsInlineKey], ?_⟩
    rw [hkey, hnull]
    -- A column with a key option is nullable only where its options end so.
    simp only [Declaration.IsInlineKey, hfree, not_false_eq_true, and_true]
    tauto

/-- Outside of `CREATE TABLE` a column has no constraints beside it. -/
theorem enters_ofColumn (c : Column) : Enters (.ofColumn c) ⟨c, []⟩ := enters_inKey c []

/-! ## What statements tell -/

/-- The definitions that changes tell, in order. -/
def toldDefinitions (changes : List TableChange) : List ColumnSpec :=
  changes.flatMap fun change => change.operation.definitions

/-- An operation without a definition tells none, however many tables it is told for. -/
theorem toldDefinitions_map {operation : Operation} (h : operation.definitions = [])
    (tables : List Sql.Name) :
    toldDefinitions (tables.map fun t => ⟨t.base.text, operation⟩) = [] := by
  rw [toldDefinitions, List.flatMap_eq_nil_iff]
  intro change hmem
  obtain ⟨t, -, rfl⟩ := List.mem_map.1 hmem
  exact h

variable {sql source : String} {s : Statement} {changes : List TableChange}

/-- A statement that is passed on tells no definition. -/
theorem toldDefinitions_unparsed {ts : List Token}
    (h : unparsedChange source ts = .ok changes) : toldDefinitions changes = [] := by
  unfold unparsedChange at h
  -- What is passed on has no structure, and what is rejected tells nothing.
  simp only at h
  split at h
  · split at h
    · cases h
      rfl
    · cases h
  · cases h
    rfl

/-- A statement that is passed on declares no column, so nothing is told of one. -/
theorem toldDefinitions_of_isPassedOn (hs : isPassedOn s = true)
    (h : ofStatement source s = .ok changes) : toldDefinitions changes = [] := by
  cases htokens : Sql.tokens source with
  | error cause =>
    -- A text that cannot be split into tokens is rejected.
    have hrejected : ofStatement source s = .error (.untokenizable cause) := by
      cases s with
      | renameTables pairs =>
        simp [ofStatement, tokens, htokens, Except.mapError, bind, Except.bind]
      | other text => simp [ofStatement, tokens, htokens, Except.mapError, bind, Except.bind]
      | _ => cases hs
    rw [hrejected] at h
    cases h
  | ok ts =>
    rw [ofStatement_of_isPassedOn htokens hs] at h
    exact toldDefinitions_unparsed h

/-- A clause tells the one column that it declares, or none. -/
theorem entered_ofClause (clause : AlterClause) :
    List.Forall₂ Enters ((ofClause clause).toList.flatMap Operation.definitions)
      (clauseDeclarations clause) := by
  -- Four kinds of clauses declare a column, and the others none.
  cases clause with
  | addColumn c => exact .cons (enters_ofColumn c) .nil
  | modifyColumn c => exact .cons (enters_ofColumn c) .nil
  | changeColumn old c =>
    simp only [ofClause]
    split
    · exact .cons (enters_ofColumn c) .nil
    · exact .cons (enters_ofColumn c) .nil
  | setType name type => exact .cons (enters_ofColumn ⟨name, type, []⟩) .nil
  | dropColumn _ => exact .nil
  | renameColumn _ _ => exact .nil
  | renameTable _ => exact .nil
  | other => exact .nil

/-- The clauses tell their columns in order. -/
theorem entered_ofClauses (table : String) (clauses : List AlterClause) :
    List.Forall₂ Enters
      (toldDefinitions ((clauses.filterMap ofClause).map fun operation => ⟨table, operation⟩))
      (clauses.flatMap clauseDeclarations) := by
  -- A clause that makes no change tells no column, and then it declares none either.
  induction clauses with
  | nil => exact .nil
  | cons clause clauses ih =>
    rw [List.flatMap_cons]
    have hclause := entered_ofClause clause
    cases hoperation : ofClause clause with
    | none =>
      rw [hoperation] at hclause
      rw [List.filterMap_cons_none hoperation]
      exact List.rel_append hclause ih
    | some operation =>
      rw [hoperation] at hclause
      rw [List.filterMap_cons_some hoperation]
      simp only [Option.toList_some, List.flatMap_singleton] at hclause
      exact List.rel_append hclause ih

/-- **One statement**: the definitions that it tells are those of the columns that it declares. -/
theorem entered_ofStatement (h : ofStatement source s = .ok changes) :
    List.Forall₂ Enters (toldDefinitions changes) (declarations s) := by
  -- Only two kinds of statements have declarations, and the others tell no definition.
  cases s with
  | createTable table columns constraints =>
    cases h
    simp only [toldDefinitions, List.flatMap_singleton, Operation.definitions, declarations]
    rw [List.forall₂_map_left_iff, List.forall₂_map_right_iff, List.forall₂_same]
    intro c _
    exact enters_inKey c constraints
  | alterTable table clauses =>
    cases h
    exact entered_ofClauses table.base.text clauses
  | dropTables tables =>
    cases h
    rw [toldDefinitions_map rfl tables]
    exact .nil
  | truncateTables tables =>
    cases h
    rw [toldDefinitions_map rfl tables]
    exact .nil
  | renameTables pairs =>
    rw [toldDefinitions_of_isPassedOn rfl h]
    exact .nil
  | other text =>
    rw [toldDefinitions_of_isPassedOn rfl h]
    exact .nil

/-- Several statements tell the definitions of the columns of each, in order. -/
theorem entered_ofStatements (ss : List Statement) (h : ofStatements ss = .ok changes) :
    List.Forall₂ Enters (toldDefinitions changes) (ss.flatMap declarations) := by
  induction ss generalizing changes with
  -- The induction is on the statements; the first that fails ends the reading with its error.
  | nil =>
    cases h
    exact .nil
  | cons s ss ih =>
    rw [ofStatements, ofStatementAmong] at h
    cases hfirst : ofStatement s.text s with
    | error e =>
      rw [hfirst] at h
      cases h
    | ok first =>
      rw [hfirst] at h
      cases hmore : ofStatements ss with
      | error e =>
        rw [hmore] at h
        cases h
      | ok more =>
        rw [hmore] at h
        cases h
        rw [toldDefinitions, List.flatMap_append, List.flatMap_cons]
        exact List.rel_append (entered_ofStatement hfirst) (ih hmore)

/-- **Keys and nulls**: the definitions that a text tells are those of the columns that its
statements declare, in order. Such a column is told as a key exactly if an option of its own says so
or a constraint beside it lists its name. A key is told as nullable exactly if no constraint lists
it and an option `NULL` stands behind its options `PRIMARY KEY` and `NOT NULL`; in all other cases a
key is not nullable. -/
theorem keys_told_as_declared [Sql.Grammar] {ss : List Statement} (hread : Holds sql ss)
    (htold : Dialect.basic.changes sql = .ok changes) :
    List.Forall₂ Enters (toldDefinitions changes) (ss.flatMap declarations) := by
  -- A single statement is told from its own text, several from the form they are printed in.
  -- Neither form plays a part in what is told of a column.
  by_cases hone : ss.length = 1
  · obtain ⟨s, rfl⟩ := List.length_eq_one_iff.1 hone
    rw [basic_of_single hread] at htold
    simpa using entered_ofStatement htold
  · rw [basic_of_list hread hone] at htold
    exact entered_ofStatements ss htold

def keysText : String :=
  "CREATE TABLE t (a INT NULL PRIMARY KEY, b INT PRIMARY KEY NULL, c INT, PRIMARY KEY (b, c))"

def keysTokens : List Token :=
  [.word "CREATE" false, .word "TABLE" false, .word "t" false, .symbol "(",
    .word "a" false, .word "INT" false, .word "NULL" false, .word "PRIMARY" false,
    .word "KEY" false, .symbol ",",
    .word "b" false, .word "INT" false, .word "PRIMARY" false, .word "KEY" false,
    .word "NULL" false, .symbol ",",
    .word "c" false, .word "INT" false, .symbol ",",
    .word "PRIMARY" false, .word "KEY" false, .symbol "(", .word "b" false, .symbol ",",
    .word "c" false, .symbol ")", .symbol ")"]

def keysStatement : Statement :=
  .createTable ⟨[], ⟨"t", none⟩⟩
    [⟨⟨"a", none⟩, .integer "INT" none false, [.nullable, .primaryKey]⟩,
      ⟨⟨"b", none⟩, .integer "INT" none false, [.primaryKey, .nullable]⟩,
      ⟨⟨"c", none⟩, .integer "INT" none false, []⟩]
    [.primaryKey [⟨"b", none⟩, ⟨"c", none⟩]]

def keysDefinitions : List ColumnSpec :=
  [⟨"a", "INT", false, true, none⟩, ⟨"b", "INT", false, true, none⟩,
    ⟨"c", "INT", false, true, none⟩]

/-- Keys that are not nullable: by an option behind `NULL`, by a constraint in spite of a later
`NULL`, and by a constraint alone. -/
theorem keysText_is_told :
    Holds keysText [keysStatement] ∧
      Dialect.basic.changes keysText = .ok [⟨"t", .createTable keysDefinitions⟩] ∧
      List.Forall₂ Enters keysDefinitions (declarations keysStatement) := by
  have htokens : Sql.tokens keysText = .ok keysTokens := by decide +kernel
  have hone : Sql.statements? keysTokens = some [keysStatement] := by rfl
  have hread : Holds keysText [keysStatement] := (read?_of_tokens htokens).trans hone
  have htold : Dialect.basic.changes keysText = .ok [⟨"t", .createTable keysDefinitions⟩] := by
    rw [basic_of_single hread]
    rfl
  exact ⟨hread, htold, keys_told_as_declared hread htold⟩

def takenBackText : String := "CREATE TABLE t (a INT PRIMARY KEY NULL)"

def takenBackTokens : List Token :=
  [.word "CREATE" false, .word "TABLE" false, .word "t" false, .symbol "(",
    .word "a" false, .word "INT" false, .word "PRIMARY" false, .word "KEY" false,
    .word "NULL" false, .symbol ")"]

/-- A key that is told as nullable. -/
theorem takenBackText_is_nullable :
    Holds takenBackText
        [.createTable ⟨[], ⟨"t", none⟩⟩
          [⟨⟨"a", none⟩, .integer "INT" none false, [.primaryKey, .nullable]⟩] []] ∧
      Dialect.basic.changes takenBackText =
        .ok [⟨"t", .createTable [⟨"a", "INT", true, true, none⟩]⟩] := by
  have htokens : Sql.tokens takenBackText = .ok takenBackTokens := by decide +kernel
  have hone : Sql.statements? takenBackTokens =
      some [.createTable ⟨[], ⟨"t", none⟩⟩
        [⟨⟨"a", none⟩, .integer "INT" none false, [.primaryKey, .nullable]⟩] []] := by rfl
  refine ⟨(read?_of_tokens htokens).trans hone, ?_⟩
  rw [basic_of_one htokens hone]
  rfl

end ChangeFeed.Schema

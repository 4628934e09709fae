import ChangeFeed.Schema.Raw
import ChangeFeed.Sql.Parse.Statement

/-!
# Schema changes: Structure

The changes that a statement makes to the structure of tables. A clause that leaves the columns
alone makes none.
-/

namespace ChangeFeed.Schema

open Sql (AlterClause Column ColumnOption Constraint Ident Statement)

/-! ## Columns -/

/-- What an option says about a column. -/
def ColumnSpec.withOption (c : ColumnSpec) : ColumnOption → ColumnSpec
  | .notNull => { c with nullable := false }
  | .nullable => { c with nullable := true }
  | .defaultsTo e => { c with defaultValue := some e.render }
  | .primaryKey => { c with primaryKey := true, nullable := false }
  | .other => c

/-- The definition of a column; a later option overrides an earlier one. -/
def ColumnSpec.ofColumn (c : Column) : ColumnSpec :=
  c.options.foldl withOption (.ofType c.name.text c.type.render)

/-- The columns of the primary keys among constraints. -/
def keyColumns (constraints : List Constraint) : List String :=
  constraints.flatMap fun
    | .primaryKey columns => columns.map Ident.text
    | .other => []

/-- A column that belongs to the primary key if its name is among the given ones. -/
def ColumnSpec.inKey (key : List String) (c : ColumnSpec) : ColumnSpec :=
  if key.contains c.name then { c with primaryKey := true, nullable := false } else c

/-! ## Statements -/

/-- The change that a clause makes. -/
def ofClause : AlterClause → Option Operation
  | .addColumn c => some (.addColumn (.ofColumn c))
  | .dropColumn i => some (.dropColumn i.text)
  | .modifyColumn c => some (.modifyColumn (.ofColumn c))
  | .changeColumn old c =>
    let d := ColumnSpec.ofColumn c
    if old.text = c.name.text then some (.modifyColumn d)
    else some (.renameColumn old.text c.name.text (some d))
  | .renameColumn old new => some (.renameColumn old.text new.text none)
  | .renameTable target => some (.renameTable target.base.text)
  | .setType i t => some (.modifyColumn (.ofType i.text t.render))
  | .other => none

/-- The changes that a statement makes; `source` is its text. -/
def ofStatement (source : String) : Statement → Except Rejection (List TableChange)
  | .createTable table columns constraints =>
    let key := keyColumns constraints
    let definitions := columns.map fun c => (ColumnSpec.ofColumn c).inKey key
    .ok [⟨table.base.text, .createTable definitions⟩]
  | .alterTable table clauses =>
    .ok ((clauses.filterMap ofClause).map fun operation => ⟨table.base.text, operation⟩)
  | .dropTables tables => .ok (tables.map fun t => ⟨t.base.text, .dropTable⟩)
  | .truncateTables tables => .ok (tables.map fun t => ⟨t.base.text, .truncateTable⟩)
  | .renameTables _ => do unparsedChange source (← tokens source)
  | .other _ => do unparsedChange source (← tokens source)

/-- The changes of a statement among others, whose own text is the canonical one. -/
def ofStatementAmong (s : Statement) : Except Rejection (List TableChange) :=
  ofStatement s.text s

/-- The changes of several statements in order, up to the first that is rejected. -/
def ofStatements : List Statement → Except Rejection (List TableChange)
  | [] => .ok []
  | s :: rest => do
    let first ← ofStatementAmong s
    let more ← ofStatements rest
    return first ++ more

/-- The changes that the statements of a text make. A text of which some part cannot be read is
passed on as one statement. -/
def structuredChanges [Sql.Grammar] (sql : String) : Except Rejection (List TableChange) :=
  match Sql.Grammar.read? sql with
  | none => do unparsedChange sql (← tokens sql)
  | some [s] => ofStatement sql s
  | some ss => ofStatements ss

end ChangeFeed.Schema

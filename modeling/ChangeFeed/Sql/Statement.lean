import ChangeFeed.Sql.Expr

/-!
# SQL: Statements

What a statement does to the structure of tables. Clauses and statements that leave it alone are
recognised, but only the fact is kept.
-/

namespace ChangeFeed.Sql

/-! ## Columns and constraints -/

/-- What is said about a column besides its type. -/
inductive ColumnOption where
  | notNull
  | nullable
  | defaultsTo (value : Expr)
  | primaryKey
  /-- A comment, a check, a reference and the like. -/
  | other

/-- The definition of a column. -/
structure Column where
  name : Ident
  type : DataType
  options : List ColumnOption

/-- A constraint of a table. -/
inductive Constraint where
  | primaryKey (columns : List Ident)
  /-- An index, a reference or a check. -/
  | other

/-! ## Clauses and statements -/

/-- A clause of `ALTER TABLE`. -/
inductive AlterClause where
  | addColumn (column : Column)
  | dropColumn (name : Ident)
  | modifyColumn (column : Column)
  | changeColumn (old : Ident) (column : Column)
  | renameColumn (old new : Ident)
  | renameTable (target : Name)
  | setType (name : Ident) (type : DataType)
  /-- An index, a constraint, a partition and the like. -/
  | other

/-- A statement. -/
inductive Statement where
  | createTable (table : Name) (columns : List Column) (constraints : List Constraint)
  | alterTable (table : Name) (clauses : List AlterClause)
  | dropTables (tables : List Name)
  | truncateTables (tables : List Name)
  | renameTables (pairs : List (Name × Name))
  /-- Any other statement, with its canonical text. -/
  | other (text : String)

namespace Statement

/-- One table's old and new name. -/
def renamePair (pair : Name × Name) : String :=
  pair.1.render ++ " TO " ++ pair.2.render

/-- The canonical text of a statement that is passed on as it stands. -/
def text : Statement → String
  | .renameTables pairs => "RENAME TABLE " ++ ", ".intercalate (pairs.map renamePair)
  | .other text => text
  | _ => ""

end Statement

/-! ## Reading a text -/

/-- Whatever reads a text as statements: which ones it knows, and the canonical text that it gives
to each, is its own affair. -/
class Grammar where
  /-- The statements of a text; nothing if some part of it cannot be read. -/
  read? : String → Option (List Statement)

end ChangeFeed.Sql

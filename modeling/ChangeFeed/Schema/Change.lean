import ChangeFeed.Text.Blank
import ChangeFeed.Text.Uppercase

/-!
# Schema changes

What a statement does to one table: a kind of change, and either its structure or, where the
structure is not told, the statement itself.
-/

namespace ChangeFeed.Schema

/-! ## Kinds of statements -/

/-- The kind of a statement. -/
inductive ChangeKind where
  | create
  | alter
  | drop
  | truncate
  | rename
  | createIndex
  | dropIndex
  | other
  deriving DecidableEq, Repr

namespace ChangeKind

/-- How a statement of each kind may begin; the first that fits counts. -/
def heads : List (String × ChangeKind) :=
  [("CREATE TABLE", create), ("CREATE TEMPORARY TABLE", create), ("ALTER TABLE", alter),
   ("ALTER ONLINE TABLE", alter), ("ALTER IGNORE TABLE", alter), ("DROP TABLE", drop),
   ("DROP TEMPORARY TABLE", drop), ("TRUNCATE", truncate), ("RENAME TABLE", rename),
   ("CREATE INDEX", createIndex), ("CREATE UNIQUE INDEX", createIndex),
   ("CREATE FULLTEXT INDEX", createIndex), ("DROP INDEX", dropIndex)]

/-- The kind of a statement, told by how its text begins. -/
def ofText (sql : String) : ChangeKind :=
  let text := Text.trimChars (Text.uppercase sql).toList
  match heads.find? fun head => head.1.toList.isPrefixOf text with
  | some (_, kind) => kind
  | none => other

def description : ChangeKind → String
  | create => "CREATE TABLE"
  | alter => "ALTER TABLE"
  | drop => "DROP TABLE"
  | truncate => "TRUNCATE TABLE"
  | rename => "RENAME TABLE"
  | createIndex => "CREATE INDEX"
  | dropIndex => "DROP INDEX"
  | other => "DDL"

/-- The statement is about a whole table. -/
def isTableLevel : ChangeKind → Bool
  | create | alter | drop | truncate | rename => true
  | createIndex | dropIndex | other => false

end ChangeKind

/-! ## Changes -/

/-- The definition of a column. -/
structure ColumnSpec where
  name : String
  typeName : String
  nullable : Bool
  primaryKey : Bool
  defaultValue : Option String
  deriving DecidableEq, Repr

/-- A column about which only its name and type are known. -/
def ColumnSpec.ofType (name typeName : String) : ColumnSpec :=
  ⟨name, typeName, true, false, none⟩

/-- A change of the structure of a table. -/
inductive Operation where
  | createTable (columns : List ColumnSpec)
  | dropTable
  | truncateTable
  | renameTable (target : String)
  | addColumn (column : ColumnSpec)
  | dropColumn (name : String)
  | modifyColumn (column : ColumnSpec)
  /-- A column gets a new name, and a new definition too if one is given. -/
  | renameColumn (old new : String) (definition : Option ColumnSpec)
  /-- A statement whose structure is not told. -/
  | raw (kind : ChangeKind) (ddl : String)
  deriving DecidableEq, Repr

/-- The kind of statement that makes a change. -/
def Operation.kind : Operation → ChangeKind
  | createTable _ => .create
  | dropTable => .drop
  | truncateTable => .truncate
  | renameTable _ => .rename
  | addColumn _ | dropColumn _ | modifyColumn _ | renameColumn .. => .alter
  | raw kind _ => kind

/-- A change and the table it is made to. -/
structure TableChange where
  table : String
  operation : Operation
  deriving DecidableEq, Repr

end ChangeFeed.Schema

import ChangeFeed.SortedMap

/-!
# The table catalog

What is known about the present shape of tables. The types of columns are told as far as reading
their values depends on them.
-/

namespace ChangeFeed

/-- The type of a column. -/
inductive ColumnType where
  /-- A point in time with the given number of fractional digits. -/
  | dateTime (fraction : UInt32)
  | date
  | binary
  | other (typeName : String)
  deriving DecidableEq, Repr

/-- The shape of a table. -/
structure TableLayout where
  name : String
  fields : SortedMap ColumnType
  primaryKeys : List String
  deriving DecidableEq, Repr

namespace TableLayout

/-- A table without columns. -/
def ofName (name : String) : TableLayout := ⟨name, .empty, []⟩

def addField (t : TableLayout) (name : String) (type : ColumnType) : TableLayout :=
  { t with fields := t.fields.insert name type }

/-- The table with one more column of its primary key. -/
def addKey (t : TableLayout) (name : String) : TableLayout :=
  { t with primaryKeys := t.primaryKeys ++ [name] }

def field? (t : TableLayout) (name : String) : Option ColumnType := t.fields.get? name

end TableLayout

/-- The shapes of tables, by their names. -/
structure Catalog where
  tables : SortedMap TableLayout
  deriving DecidableEq, Repr

namespace Catalog

/-- The catalog without tables. -/
def empty : Catalog := ⟨.empty⟩

/-- The catalog with a table, instead of the one with the same name. -/
def insert (c : Catalog) (t : TableLayout) : Catalog := ⟨c.tables.insert t.name t⟩

/-- The catalog with the given tables; of two with one name the later counts. -/
def ofList (tables : List TableLayout) : Catalog := tables.foldl insert empty

def table? (c : Catalog) (name : String) : Option TableLayout := c.tables.get? name

def fieldType? (c : Catalog) (table field : String) : Option ColumnType :=
  (c.table? table).bind (·.field? field)

def size (c : Catalog) : Nat := c.tables.size

end Catalog

end ChangeFeed

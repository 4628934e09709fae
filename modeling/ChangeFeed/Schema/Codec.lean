import ChangeFeed.Json.Decode
import ChangeFeed.Schema.Change

/-!
# Schema changes: JSON

A change of a table is an object with its kind under `type`; what is said about a column stands in
the same object.
-/

namespace ChangeFeed.Schema

open Json (Decode decodeAs decodeWithin)
open Json.Fields (required optional)

/-! ## Kinds of statements -/

/-- The names of the kinds of statements. -/
def ChangeKind.names : List (String × ChangeKind) :=
  [("CREATE", .create), ("ALTER", .alter), ("DROP", .drop), ("TRUNCATE", .truncate),
   ("RENAME", .rename), ("CREATE_INDEX", .createIndex), ("DROP_INDEX", .dropIndex),
   ("OTHER", .other)]

def ChangeKind.name : ChangeKind → String
  | .create => "CREATE"
  | .alter => "ALTER"
  | .drop => "DROP"
  | .truncate => "TRUNCATE"
  | .rename => "RENAME"
  | .createIndex => "CREATE_INDEX"
  | .dropIndex => "DROP_INDEX"
  | .other => "OTHER"

/-! ## Columns -/

/-- The members of the JSON form of a column; a missing default value has none. -/
def ColumnSpec.members (c : ColumnSpec) : List (String × Json) :=
  [("name", .string c.name), ("type_name", .string c.typeName), ("nullable", .bool c.nullable),
   ("primary_key", .bool c.primaryKey)] ++
    (c.defaultValue.map fun d => ("default_value", Json.string d)).toList

def ColumnSpec.toJson (c : ColumnSpec) : Json := .object c.members

def ColumnSpec.decode : Decode ColumnSpec :=
  (ColumnSpec.mk <$> required "name" Json.decodeString
    <*> required "type_name" Json.decodeString <*> required "nullable" Json.decodeBool
    <*> required "primary_key" Json.decodeBool
    <*> optional "default_value" Json.decodeString).decode "struct ColumnDefinition"

/-! ## Changes -/

/-- The JSON form of a change. -/
def Operation.toJson : Operation → Json
  | .createTable columns =>
    .object
      [("type", .string "create_table"), ("columns", .array (columns.map ColumnSpec.toJson))]
  | .dropTable => .object [("type", .string "drop_table")]
  | .truncateTable => .object [("type", .string "truncate_table")]
  | .renameTable target => .object [("type", .string "rename_table"), ("to", .string target)]
  | .addColumn c => .object (("type", .string "add_column") :: c.members)
  | .dropColumn name => .object [("type", .string "drop_column"), ("name", .string name)]
  | .modifyColumn c => .object (("type", .string "modify_column") :: c.members)
  | .renameColumn old new definition =>
    .object
      ([("type", .string "rename_column"), ("from", .string old), ("to", .string new)] ++
        (definition.map fun c => ("definition", c.toJson)).toList)
  | .raw kind ddl =>
    .object [("type", .string "raw"), ("change_type", .string kind.name), ("ddl", .string ddl)]

def Operation.decode : Decode Operation :=
  decodeWithin "SchemaOperation" "type"
    [("create_table",
      (Operation.createTable <$> required "columns" (Json.decodeList ColumnSpec.decode)).decode
        "struct variant SchemaOperation::CreateTable"),
     ("drop_table", Json.decodeUnit "unit variant SchemaOperation::DropTable" .dropTable),
     ("truncate_table",
      Json.decodeUnit "unit variant SchemaOperation::TruncateTable" .truncateTable),
     ("rename_table",
      (Operation.renameTable <$> required "to" Json.decodeString).decode
        "struct variant SchemaOperation::RenameTable"),
     ("add_column", decodeAs .addColumn ColumnSpec.decode),
     ("drop_column",
      (Operation.dropColumn <$> required "name" Json.decodeString).decode
        "struct variant SchemaOperation::DropColumn"),
     ("modify_column", decodeAs .modifyColumn ColumnSpec.decode),
     ("rename_column",
      (Operation.renameColumn <$> required "from" Json.decodeString
        <*> required "to" Json.decodeString
        <*> optional "definition" ColumnSpec.decode).decode
        "struct variant SchemaOperation::RenameColumn"),
     ("raw",
      (Operation.raw <$> required "change_type" (Json.decodeAlternative ChangeKind.names)
        <*> required "ddl" Json.decodeString).decode "struct variant SchemaOperation::Raw")]

def TableChange.toJson (c : TableChange) : Json :=
  .object [("table", .string c.table), ("operation", c.operation.toJson)]

def TableChange.decode : Decode TableChange :=
  (TableChange.mk <$> required "table" Json.decodeString
    <*> required "operation" Operation.decode).decode "struct SchemaChange"

end ChangeFeed.Schema

import ChangeFeed.Catalog
import ChangeFeed.Json.Decode

/-!
# The table catalog: JSON

The type of a column is an object with its kind under `kind`.
-/

namespace ChangeFeed

open Json (Decode decodeWithin)
open Json.Fields (required withDefault)

/-! ## Types of columns -/

def ColumnType.toJson : ColumnType → Json
  | .dateTime fraction =>
    .object [("kind", .string "date_time"), ("fraction", .int fraction.toNat)]
  | .date => .object [("kind", .string "date")]
  | .binary => .object [("kind", .string "binary")]
  | .other typeName => .object [("kind", .string "other"), ("type_name", .string typeName)]

def ColumnType.decode : Decode ColumnType :=
  decodeWithin "FieldType" "kind"
    [("date_time",
      (ColumnType.dateTime <$> required "fraction" Json.decodeUInt32).decode
        "struct variant FieldType::DateTime"),
     ("date", Json.decodeUnit "unit variant FieldType::Date" .date),
     ("binary", Json.decodeUnit "unit variant FieldType::Binary" .binary),
     ("other",
      (ColumnType.other <$> required "type_name" Json.decodeString).decode
        "struct variant FieldType::Other")]

/-! ## Tables -/

def TableLayout.toJson (t : TableLayout) : Json :=
  .object
    [("name", .string t.name), ("fields", .ofMap (t.fields.mapValues fun _ type => type.toJson)),
     ("primary_keys", .array (t.primaryKeys.map .string))]

def TableLayout.decode : Decode TableLayout :=
  (TableLayout.mk <$> required "name" Json.decodeString
    <*> required "fields" (Json.decodeMap ColumnType.decode)
    <*> withDefault "primary_keys" (Json.decodeList Json.decodeString) []).decode
    "struct TableSchema"

end ChangeFeed

import ChangeFeed.Event
import ChangeFeed.Row.Codec
import ChangeFeed.Schema.Codec

/-!
# Change events: JSON

An event is an object with its kind under `op`.
-/

namespace ChangeFeed.TableEvent

open Json (Decode)
open Json.Fields (required optional)

/-- The JSON form of an event; a row that was not kept has no member. -/
def toJson : TableEvent → Json
  | insert table after referenceTime =>
    .object
      [("op", .string "insert"), ("table", .string table), ("after", Row.toJson after),
       ("reference_time", .int referenceTime.toInt)]
  | update table before after referenceTime =>
    .object
      ([("op", .string "update"), ("table", .string table)] ++
        (before.map fun r => ("before", Row.toJson r)).toList ++
        [("after", Row.toJson after), ("reference_time", .int referenceTime.toInt)])
  | delete table before referenceTime =>
    .object
      [("op", .string "delete"), ("table", .string table), ("before", Row.toJson before),
       ("reference_time", .int referenceTime.toInt)]
  | schemaChange table operation referenceTime =>
    .object
      [("op", .string "schema_change"), ("table", .string table),
       ("operation", operation.toJson), ("reference_time", .int referenceTime.toInt)]

def decode : Decode TableEvent :=
  Json.decodeWithin "ChangeEvent" "op"
    [("insert",
      (insert <$> required "table" Json.decodeString <*> required "after" Row.decode
        <*> required "reference_time" Json.decodeInt64).decode
        "struct variant ChangeEvent::Insert"),
     ("update",
      (update <$> required "table" Json.decodeString <*> optional "before" Row.decode
        <*> required "after" Row.decode <*> required "reference_time" Json.decodeInt64).decode
        "struct variant ChangeEvent::Update"),
     ("delete",
      (delete <$> required "table" Json.decodeString <*> required "before" Row.decode
        <*> required "reference_time" Json.decodeInt64).decode
        "struct variant ChangeEvent::Delete"),
     ("schema_change",
      (schemaChange <$> required "table" Json.decodeString
        <*> required "operation" Schema.Operation.decode
        <*> required "reference_time" Json.decodeInt64).decode
        "struct variant ChangeEvent::SchemaChange")]

end ChangeFeed.TableEvent

import ChangeFeed.Record
import ChangeFeed.Row.Codec

/-!
# Records of the log: JSON

A missing part of a record has no member. When a record is decoded every part may be missing.
-/

namespace ChangeFeed

open Json (Decode)
open Json.Fields (optional withDefault)

/-- A member that is there only if it has a value. -/
def optionalMember (name : String) (value : Option Json) : List (String × Json) :=
  (value.map fun v => (name, v)).toList

def Source.toJson (s : Source) : Json :=
  .object
    (("ts_ms", .int s.time.toInt) :: optionalMember "db" (s.database.map .string) ++
      optionalMember "table" (s.table.map .string))

def Source.decode : Decode Source :=
  (Source.mk <$> withDefault "ts_ms" Json.decodeInt64 0 <*> optional "db" Json.decodeString
    <*> optional "table" Json.decodeString).decode "struct SourceMetadata"

/-- The JSON form of what a record says. -/
def Payload.toJson (p : Payload) : Json :=
  .object
    (optionalMember "op" (p.code.map .string) ++
      optionalMember "before" (p.before.map LoggedRow.toJson) ++
      optionalMember "after" (p.after.map LoggedRow.toJson) ++
      optionalMember "ddl" (p.ddl.map .string) ++ [("source", p.source.toJson)])

/-- Decodes what a record says. -/
def Payload.decode : Decode Payload :=
  (Payload.mk <$> optional "op" Json.decodeString <*> optional "before" LoggedRow.decode
    <*> optional "after" LoggedRow.decode <*> optional "ddl" Json.decodeString
    <*> withDefault "source" Source.decode .unknown).decode "struct RecordValue"

def LogRecord.toJson (r : LogRecord) : Json :=
  .object
    ([("partition", .ofMap r.partition), ("offset", .ofMap r.offset)] ++
      optionalMember "value" (r.payload.map Payload.toJson))

def LogRecord.decode : Decode LogRecord :=
  (LogRecord.mk <$> withDefault "partition" (Json.decodeMap Json.decodeAny) .empty
    <*> withDefault "offset" (Json.decodeMap Json.decodeAny) .empty
    <*> optional "value" Payload.decode).decode "struct SourceRecord"

end ChangeFeed

import ChangeFeed.Row.Codec
import ChangeFeed.Snapshot

/-!
# Reading the rows of a table: JSON
-/

namespace ChangeFeed.SnapshotMark

open Json.Fields (required withDefault)

/-- The JSON form of an offset. -/
def toJson (o : SnapshotMark) : Json :=
  .object [("table", .string o.table), ("offset", Row.toJson o.key)]

def decode : Json.Decode SnapshotMark :=
  (SnapshotMark.mk <$> required "table" Json.decodeString
    <*> withDefault "offset" Row.decode .empty).decode "struct SnapshotOffset"

end ChangeFeed.SnapshotMark

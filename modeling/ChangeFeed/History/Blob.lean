import ChangeFeed.Error
import ChangeFeed.Gzip
import ChangeFeed.History
import ChangeFeed.Json.Decode
import ChangeFeed.Text.Base64
import ChangeFeed.Text.Utf8

/-!
# The schema history: Packed text

A snapshot is stored as one text: its JSON, packed, in an alphabet of 64 characters.
-/

namespace ChangeFeed.StatementLists

/-- The JSON form of a snapshot. -/
def toJson (s : StatementLists) : Json :=
  .ofMap (s.mapValues fun _ statements => .array (statements.map .string))

def decode : Json.Decode StatementLists := Json.decodeMap (Json.decodeList Json.decodeString)

/-- The packed text of a snapshot. -/
def pack [Gzip.Packer] (s : StatementLists) : String :=
  Text.Base64.encode (Gzip.Packer.pack (Text.Utf8.encode s.toJson.render))

def symbolsOf (bytes : List UInt8) : List Json.Symbol :=
  (Text.Utf8.decode bytes).map fun
    | .ok c => .char c
    | .error b => .stray b

/-- The snapshot of a packed text. -/
def unpack (text : String) : Result StatementLists := do
  let packed ← (Text.Base64.decode (Text.Utf8.encode text)).mapError fun fault =>
    .compression ("invalid base64: " ++ fault.message)
  let json ← (Gzip.unpack packed).mapError fun fault => .compression fault.message
  (Json.decodeSymbols decode (symbolsOf json)).mapError .json

end ChangeFeed.StatementLists

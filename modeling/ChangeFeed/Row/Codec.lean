import ChangeFeed.Instant.Read
import ChangeFeed.Instant.Text
import ChangeFeed.Json.Decode
import ChangeFeed.Row

/-!
# Rows: JSON

A value is an object with its kind under `type` and its content under `value`; a missing value has
no content. A row is an object with its columns as members.
-/

namespace ChangeFeed

open Json (Decode decodeAs)

/-! ## Contents -/

def bytesToJson (bytes : List UInt8) : Json := .array (bytes.map fun b => .int b.toNat)

def decodeBytes : Decode (List UInt8) := Json.decodeList Json.decodeByte

/-- Decodes a point in time, written in the lenient form. -/
def decodeInstant : Decode Instant := fun o d =>
  match d with
  | .leaf (.string s) _ _ =>
    match Instant.readLenient s with
    | .ok t => .ok t
    | .error e => Json.refuse (.other e.message false)
  | d => Json.mismatch "an RFC 3339 formatted date and time string" o d

def tagged (kind : String) (content : Json) : Json :=
  .object [("type", .string kind), ("value", content)]

/-! ## Raw values -/

def LoggedValue.toJson : LoggedValue → Json
  | .null => .object [("type", .string "null")]
  | .boolean b => tagged "boolean" (.bool b)
  | .int32 n => tagged "int32" (.int n.toInt)
  | .int64 n => tagged "int64" (.int n.toInt)
  | .float64 x => tagged "float64" (.float x)
  | .decimal s => tagged "decimal" (.string s)
  | .string s => tagged "string" (.string s)
  | .bytes bs => tagged "bytes" (bytesToJson bs)
  | .json v => tagged "json" v

def LoggedValue.kinds : List (String × String × Json.Content LoggedValue) :=
  [("null", "Null", .unit .null),
   ("boolean", "Boolean", .content (decodeAs .boolean Json.decodeBool)),
   ("int32", "Int32", .content (decodeAs .int32 Json.decodeInt32)),
   ("int64", "Int64", .content (decodeAs .int64 Json.decodeInt64)),
   ("float64", "Float64", .content (decodeAs .float64 Json.decodeFloat)),
   ("decimal", "Decimal", .content (decodeAs .decimal Json.decodeString)),
   ("string", "String", .content (decodeAs .string Json.decodeString)),
   ("bytes", "Bytes", .content (decodeAs .bytes decodeBytes)),
   ("json", "Json", .content (decodeAs .json Json.decodeAny))]

def LoggedValue.decode : Decode LoggedValue := Json.decodeBeside ⟨"RawValue", "type", "value"⟩ kinds

/-- The JSON form of a raw row. -/
def LoggedRow.toJson (r : LoggedRow) : Json := .ofMap (r.mapValues fun _ v => v.toJson)

def LoggedRow.decode : Decode LoggedRow := Json.decodeMap LoggedValue.decode

/-! ## Values -/

def Value.toJson : Value → Json
  | .null => .object [("type", .string "null")]
  | .bool b => tagged "bool" (.bool b)
  | .int n => tagged "int" (.int n.toInt)
  | .float x => tagged "float" (.float x)
  | .decimal s => tagged "decimal" (.string s)
  | .string s => tagged "string" (.string s)
  | .bytes bs => tagged "bytes" (bytesToJson bs)
  | .instant t => tagged "instant" (.string t.text)
  | .json v => tagged "json" v

def Value.kinds : List (String × String × Json.Content Value) :=
  [("null", "Null", .unit .null),
   ("bool", "Bool", .content (decodeAs .bool Json.decodeBool)),
   ("int", "Int", .content (decodeAs .int Json.decodeInt64)),
   ("float", "Float", .content (decodeAs .float Json.decodeFloat)),
   ("decimal", "Decimal", .content (decodeAs .decimal Json.decodeString)),
   ("string", "String", .content (decodeAs .string Json.decodeString)),
   ("bytes", "Bytes", .content (decodeAs .bytes decodeBytes)),
   ("instant", "Instant", .content (decodeAs .instant decodeInstant)),
   ("json", "Json", .content (decodeAs .json Json.decodeAny))]

def Value.decode : Decode Value := Json.decodeBeside ⟨"FieldValue", "type", "value"⟩ kinds

def Row.toJson (r : Row) : Json := .ofMap (r.mapValues fun _ v => v.toJson)

def Row.decode : Decode Row := Json.decodeMap Value.decode

end ChangeFeed

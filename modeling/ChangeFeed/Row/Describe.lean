import ChangeFeed.Instant.Text
import ChangeFeed.Json.Print
import ChangeFeed.Row
import ChangeFeed.Text.Diagnosis

/-!
# Rows: Text for diagnosis

The text of values and rows in messages: each value with its kind in front.
-/

namespace ChangeFeed

open Text (labelled listing mapping quoted truth)

def describeBytes (bytes : List UInt8) : String := listing (bytes.map fun b => toString b.toNat)

def LoggedValue.describe : LoggedValue → String
  | .null => "Null"
  | .boolean b => labelled "Boolean" (truth b)
  | .int32 n => labelled "Int32" (toString n.toInt)
  | .int64 n => labelled "Int64" (toString n.toInt)
  | .float64 x => labelled "Float64" (x.text Json.diagnosisLayout)
  | .decimal s => labelled "Decimal" (quoted s)
  | .string s => labelled "String" (quoted s)
  | .bytes bs => labelled "Bytes" (describeBytes bs)
  | .json v => labelled "Json" v.describe

def Value.describe : Value → String
  | .null => "Null"
  | .bool b => labelled "Bool" (truth b)
  | .int n => labelled "Int" (toString n.toInt)
  | .float x => labelled "Float" (x.text Json.diagnosisLayout)
  | .decimal s => labelled "Decimal" (quoted s)
  | .string s => labelled "String" (quoted s)
  | .bytes bs => labelled "Bytes" (describeBytes bs)
  | .instant t => labelled "Instant" t.text
  | .json v => labelled "Json" v.describe

def LoggedRow.describe (r : LoggedRow) : String := mapping (r.mapValues fun _ v => v.describe)

def Row.describe (r : Row) : String := mapping (r.mapValues fun _ v => v.describe)

end ChangeFeed

import ChangeFeed.Catalog
import ChangeFeed.Instant.Read
import ChangeFeed.Row

/-!
# Rows: Coercion

The values of a raw row become those of an event. What the catalog knows about a column decides how
dates and times are read; every other value changes its kind only.
-/

namespace ChangeFeed

/-! ## Numbers -/

def millisPerSecond : Int := 1000

def millisPerDay : Int := 86400000

/-- The integer of 64 bits that is nearest. -/
def nearestInt64 (n : Int) : Int64 :=
  Int64.ofInt (max Int64.minValue.toInt (min n Int64.maxValue.toInt))

/-- Whole seconds, rounded toward zero. -/
def secondsOfMillis (millis : Int64) : Int64 := nearestInt64 (millis.toInt.tdiv millisPerSecond)

/-- The milliseconds of whole days, as near as 64 bits allow. -/
def millisOfDays (days : Int64) : Int64 := nearestInt64 (days.toInt * millisPerDay)

/-! ## Values -/

namespace Value

/-- The value without regard to the type of its column. -/
def ofRaw : LoggedValue → Value
  | .null => null
  | .boolean b => bool b
  | .int32 n => int n.toInt64
  | .int64 n => int n
  | .float64 x => float x
  | .decimal s => decimal s
  | .string s => string s
  | .bytes bs => bytes bs
  | .json v => json v

/-- A text as the point in time that it stands for, or as it is. -/
def ofTimeText (s : String) : Value :=
  match Instant.readStrict s with
  | .ok t => instant t
  | .error _ => string s

/-- The value of a column of the given type, if the type is known. -/
def coerce (type : Option ColumnType) (raw : LoggedValue) : Value :=
  match type with
  | some (.dateTime fraction) =>
    match raw with
    | .string s => ofTimeText s
    | raw =>
      match raw.integer? with
      | some millis => if fraction = 0 then int (secondsOfMillis millis) else int millis
      | none => ofRaw raw
  | some .date =>
    match raw.integer? with
    | some days => int (millisOfDays days)
    | none => ofRaw raw
  | _ => ofRaw raw

end Value

/-! ## Rows -/

/-- The row of a table, with every value coerced to the type of its column. -/
def LoggedRow.coerce (raw : LoggedRow) (schema : Option TableLayout) : Row :=
  raw.mapValues fun column v => Value.coerce (schema.bind (·.field? column)) v

end ChangeFeed

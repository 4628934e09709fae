import ChangeFeed.Binary64
import ChangeFeed.Instant
import ChangeFeed.Json
import ChangeFeed.SortedMap

/-!
# Rows

A row maps column names to values. A raw row holds the values as they are read from the log; in a
row of an event integers have one width and points in time are told apart from texts.
-/

namespace ChangeFeed

/-- The value of a column as it is read from the log. -/
inductive LoggedValue where
  | null
  | boolean (value : Bool)
  | int32 (value : Int32)
  | int64 (value : Int64)
  | float64 (value : Binary64)
  /-- A decimal number in its exact text. -/
  | decimal (text : String)
  | string (value : String)
  | bytes (value : List UInt8)
  | json (value : Json)
  deriving Repr

/-- The integer of either width that the value is. -/
def LoggedValue.integer? : LoggedValue → Option Int64
  | .int32 n => some n.toInt64
  | .int64 n => some n
  | _ => none

/-- The value of a column in an event. -/
inductive Value where
  | null
  | bool (value : Bool)
  | int (value : Int64)
  | float (value : Binary64)
  /-- A decimal number in its exact text. -/
  | decimal (text : String)
  | string (value : String)
  | bytes (value : List UInt8)
  | instant (value : Instant)
  | json (value : Json)
  deriving Repr

namespace Value

def isNull : Value → Bool
  | null => true
  | _ => false

def int? : Value → Option Int64
  | int n => some n
  | _ => none

/-- The text that the value is or is kept as. -/
def text? : Value → Option String
  | string s => some s
  | decimal s => some s
  | _ => none

end Value

/-- The values of the columns of a row, as they are read from the log. -/
abbrev LoggedRow := SortedMap LoggedValue

/-- The values of the columns of a row. -/
abbrev Row := SortedMap Value

end ChangeFeed

import ChangeFeed.Catalog
import ChangeFeed.Error
import ChangeFeed.Schema.Dialect

/-!
# Schema changes: Interpretation

A dialect tells what statements do to tables. It is chosen by its name.
-/

namespace ChangeFeed.Schema

def Rejection.toError (r : Rejection) : Error := .schema r.message

/-- What statements do to tables. The tables that are known may matter. -/
abbrev Interpretation := Catalog → String → Result (List TableChange)

namespace Dialect

def ofName (s : String) : Result Dialect :=
  match ofName? s with
  | some dialect => .ok dialect
  | none => .error (.config ("Unknown DDL dialect: " ++ Text.lowercase s))

/-- What statements do according to a dialect, which needs to know no tables. -/
def interpretation (dialect : Dialect) : Interpretation := fun _ sql =>
  (dialect.changes sql).mapError Rejection.toError

end Dialect

end ChangeFeed.Schema

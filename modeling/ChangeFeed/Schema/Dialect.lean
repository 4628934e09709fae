import ChangeFeed.Schema.Structured
import ChangeFeed.Text.Lowercase

/-!
# Schema changes: Dialects

A dialect decides how much of a statement is told.
-/

namespace ChangeFeed.Schema

/-- How statements are turned into changes. -/
inductive Dialect where
  /-- The structure of the changes is told. -/
  | basic
  /-- Statements are passed on as they stand. -/
  | passthrough
  deriving DecidableEq, Repr

namespace Dialect

/-- The dialect that is used unless another one is asked for. -/
def default : Dialect := basic

def name : Dialect → String
  | basic => "basic"
  | passthrough => "passthrough"

/-- The dialect of a name, in any letter case. -/
def ofName? (s : String) : Option Dialect :=
  match Text.lowercase s with
  | "basic" => some basic
  | "passthrough" => some passthrough
  | "raw" => some passthrough
  | _ => none

def changes [Sql.Grammar] (dialect : Dialect) (sql : String) :
    Except Rejection (List TableChange) :=
  match dialect with
  | basic => structuredChanges sql
  | passthrough => do unparsedChange sql (← tokens sql)

end Dialect

end ChangeFeed.Schema

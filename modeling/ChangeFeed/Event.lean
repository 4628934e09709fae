import ChangeFeed.Row
import ChangeFeed.Schema.Change

/-!
# Change events

What happened to a table, in the one order of the log: changes of rows and changes of its structure.
-/

namespace ChangeFeed

/-- The kind of an event. -/
inductive EventKind where
  | insert
  | update
  | delete
  | schemaChange
  deriving DecidableEq, Repr

/-- The name of a kind for people. -/
def EventKind.text : EventKind → String
  | insert => "INSERT"
  | update => "UPDATE"
  | delete => "DELETE"
  | schemaChange => "SCHEMA_CHANGE"

/-- A change of a table. The reference time is that of the source, in milliseconds since 1970. -/
inductive TableEvent where
  | insert (table : String) (after : Row) (referenceTime : Int64)
  /-- The row before the change is there only when the source kept it. -/
  | update (table : String) (before : Option Row) (after : Row) (referenceTime : Int64)
  | delete (table : String) (before : Row) (referenceTime : Int64)
  | schemaChange (table : String) (operation : Schema.Operation) (referenceTime : Int64)
  deriving Repr

namespace TableEvent

def kind : TableEvent → EventKind
  | insert .. => .insert
  | update .. => .update
  | delete .. => .delete
  | schemaChange .. => .schemaChange

def table : TableEvent → String
  | insert table _ _ | update table _ _ _ | delete table _ _ | schemaChange table _ _ => table

/-- When the change was made. -/
def referenceTime : TableEvent → Int64
  | insert _ _ t | update _ _ _ t | delete _ _ t | schemaChange _ _ t => t

def before? : TableEvent → Option Row
  | update _ before _ _ => before
  | delete _ before _ => some before
  | _ => none

def after? : TableEvent → Option Row
  | insert _ after _ => some after
  | update _ _ after _ => some after
  | _ => none

/-- The event is about the structure of the table. -/
def isSchemaChange : TableEvent → Bool
  | schemaChange .. => true
  | _ => false

def isRowChange (e : TableEvent) : Bool := !e.isSchemaChange

end TableEvent

end ChangeFeed

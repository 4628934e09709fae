import ChangeFeed.Event
import ChangeFeed.History
import ChangeFeed.Position
import ChangeFeed.Record.Describe
import ChangeFeed.Row.Coerce
import ChangeFeed.Schema.Interpretation

/-!
# From records to events

A change of a row becomes one event, a statement one event for every change of a table that it
makes, and any other record none. All events of a record carry its time and its position. A
statement is recorded in the history of every table that it changes.
-/

namespace ChangeFeed

/-- An event, and the position from which reading goes on right after it. -/
structure PlacedEvent where
  event : TableEvent
  position : ResumePoint
  deriving Repr

/-- What a consumer is handed at once: events, and the position from which reading goes on right
after the last of them. -/
structure Batch where
  events : List TableEvent
  position : ResumePoint
  deriving Repr

def PlacedEvent.batch (e : PlacedEvent) : Batch := ⟨[e.event], e.position⟩

/-- What the events of a session depend on. -/
structure Interpreter where
  session : String
  catalog : Catalog
  statements : Schema.Interpretation

namespace Interpreter

/-! ## Rows -/

def row (t : Interpreter) (table : String) (raw : LoggedRow) : Row :=
  raw.coerce (t.catalog.table? table)

/-- An image of a row that an operation needs. -/
def needed (operation : RowOperation) (image : String) (change : RowChange) :
    Option LoggedRow → Result LoggedRow
  | some raw => .ok raw
  | none => .error (.missingSection operation.name image change.describe)

/-- The event of a change of a row; none if its code is not known. -/
def rowEvent (t : Interpreter) (c : RowChange) : Result (Option TableEvent) :=
  match RowOperation.ofCode? c.code with
  | none => .ok none
  | some .create => do
    let after ← needed .create "after" c c.after
    return some (.insert c.table (t.row c.table after) c.referenceTime)
  | some .update => do
    let after ← needed .update "after" c c.after
    -- The source may keep the row before an update or not.
    let before := c.before.map (t.row c.table)
    return some (.update c.table before (t.row c.table after) c.referenceTime)
  | some .delete => do
    let before ← needed .delete "before" c c.before
    return some (.delete c.table (t.row c.table before) c.referenceTime)

/-! ## Statements -/

def changes (t : Interpreter) (s : StatementRecord) : Result (List Schema.TableChange) :=
  (t.statements t.catalog s.ddl).mapError (.statementRejected s.ddl)

def changeEvent (s : StatementRecord) (c : Schema.TableChange) : TableEvent :=
  .schemaChange c.table c.operation s.referenceTime

/-- Records a statement for every table that it changes. -/
def recordStatement (history : SchemaHistory) (s : StatementRecord)
    (changes : List Schema.TableChange) : SchemaHistory :=
  changes.foldl (fun h c => (h.record c.table s.ddl).2) history

/-! ## Records -/

/-- What a record says happened, without its position, and the history then. -/
def events (t : Interpreter) (history : SchemaHistory) (r : LogRecord) :
    Result (List TableEvent) × SchemaHistory :=
  match r.content with
  | .row c => (do return (← t.rowEvent c).toList, history)
  | .statement s =>
    match t.changes s with
    -- The statement is recorded here, before anybody has looked at the position.
    | .ok changes => (.ok (changes.map (changeEvent s)), recordStatement history s changes)
    | .error e => (.error e, history)
  | .nothing => (.ok [], history)

/-- The position right after a record. -/
def position (t : Interpreter) (r : LogRecord) : Result ResumePoint :=
  (ResumePoint.ofSource t.session r.partition r.offset).mapError PositionFault.toError

/-- Events with their position, which is looked at only if there are events. -/
def placed (t : Interpreter) (r : LogRecord) : List TableEvent → Result (List PlacedEvent)
  | [] => .ok []
  | events => do
    let position ← t.position r
    return events.map (⟨·, position⟩)

def interpret (t : Interpreter) (history : SchemaHistory) (r : LogRecord) :
    Result (List PlacedEvent) × SchemaHistory :=
  let (found, history) := t.events history r
  (do t.placed r (← found), history)

end Interpreter

end ChangeFeed

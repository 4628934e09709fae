import ChangeFeed.Row

/-!
# Records of the log

A record carries where it was found and, possibly, what it says. What it says is told once: a change
of a row, a statement, or nothing that makes an event.
-/

namespace ChangeFeed

/-! ## Records -/

/-- Where and when a change was made. -/
structure Source where
  /-- Milliseconds since 1970. -/
  time : Int64
  database : Option String
  table : Option String
  deriving DecidableEq, Repr

/-- A source about which nothing is known. -/
def Source.unknown : Source := ⟨0, none, none⟩

/-- What a record says. -/
structure Payload where
  /-- The code of the change of a row. -/
  code : Option String
  before : Option LoggedRow
  after : Option LoggedRow
  /-- The text of a statement. -/
  ddl : Option String
  source : Source
  deriving Repr

/-- A record of the log. -/
structure LogRecord where
  partition : SortedMap Json
  offset : SortedMap Json
  payload : Option Payload
  deriving Repr

/-! ## What a record says -/

/-- The kinds of changes of rows. -/
inductive RowOperation where
  | create
  | update
  | delete
  deriving DecidableEq, Repr

namespace RowOperation

def ofCode? (code : String) : Option RowOperation :=
  match code with
  | "c" => some create
  | "u" => some update
  | "d" => some delete
  | _ => none

def name : RowOperation → String
  | create => "insert"
  | update => "update"
  | delete => "delete"

end RowOperation

/-- A change of a row. -/
structure RowChange where
  /-- The code as it is written, known or not. -/
  code : String
  table : String
  before : Option LoggedRow
  after : Option LoggedRow
  referenceTime : Int64
  deriving Repr

/-- A statement. -/
structure StatementRecord where
  ddl : String
  database : Option String
  referenceTime : Int64
  deriving DecidableEq, Repr

/-- What a record says. -/
inductive Content where
  | row (change : RowChange)
  | statement (record : StatementRecord)
  | nothing
  deriving Repr

/-- What a record says. A record with a code is about a row, whether it has a statement or not. -/
def LogRecord.content (r : LogRecord) : Content :=
  match r.payload with
  | none => .nothing
  | some p =>
    match p.code, p.ddl with
    | some code, _ =>
      .row ⟨code, p.source.table.getD "", p.before, p.after, p.source.time⟩
    | none, some ddl => .statement ⟨ddl, p.source.database, p.source.time⟩
    | none, none => .nothing

end ChangeFeed

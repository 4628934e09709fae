import ChangeFeed.Json.Fault
import ChangeFeed.Row.Describe
import ChangeFeed.Text.Lowercase
import ChangeFeed.Text.Search

/-!
# Errors

Everything that can go wrong between the log and the consumer. An error has a wording, a code and a
category for monitoring, and tells whether it ends the stream and whether a new attempt may succeed.
-/

namespace ChangeFeed

/-! ## Kinds of errors -/

/-- Why the operating system could not do something, as far as it is told apart. -/
inductive SystemFault where
  | connectionReset
  | connectionAborted
  | timedOut
  | interrupted
  | other
  deriving DecidableEq, Repr

/-- What went wrong. -/
inductive Error where
  /-- A column could not be read. Rows are counted from one; the columns read before it are kept. -/
  | columnRead (row : Nat) (column : String) (done : Row) (cause : String)
  /-- A change of a row lacks an image that it needs. -/
  | missingSection (operation missing : String) (record : String)
  | statementRejected (ddl : String) (cause : Error)
  /-- The engine that reads the log failed. -/
  | engine (text : String)
  /-- The schema history could not be packed or unpacked. -/
  | compression (text : String)
  | invalidPosition (text : String)
  | schema (text : String)
  | config (text : String)
  | state (text : String)
  | serialization (text : String)
  | json (cause : Json.Error)
  | io (fault : SystemFault) (text : String)
  | timeout (text : String)
  | invalidState (text : String)
  | other (text : String)
  deriving Repr

/-- The result of an operation that can fail. -/
abbrev Result := Except Error

/-- The categories of errors. -/
inductive ErrorCategory where
  | interpretation
  | replication
  | schema
  | configuration
  | storage
  | serialization
  | other
  deriving DecidableEq, Repr

def ErrorCategory.name : ErrorCategory → String
  | interpretation => "translation"
  | replication => "replication"
  | schema => "schema"
  | configuration => "configuration"
  | storage => "storage"
  | serialization => "serialization"
  | other => "other"

namespace Error

/-! ## Wording -/

def message : Error → String
  | columnRead row column done cause =>
    "Read column value failed, row: " ++ toString row ++ ", column name: " ++ column ++
      ", data: " ++ Row.describe done ++ "; error: " ++ cause
  | missingSection operation missing record =>
    "Found " ++ operation ++ " record does not have " ++ missing ++ ": " ++ record
  | statementRejected ddl cause => "Handle ddl failed: " ++ ddl ++ ", error: " ++ cause.message
  | engine text => "Engine error: " ++ text
  | compression text => "Compression error: " ++ text
  | invalidPosition text => "Invalid position: " ++ text
  | schema text => "Schema error: " ++ text
  | config text => "Configuration error: " ++ text
  | state text => "State store error: " ++ text
  | serialization text => "Serialization error: " ++ text
  | json cause => "JSON error: " ++ cause.message
  | io _ text => "IO error: " ++ text
  | timeout text => "Timeout: " ++ text
  | invalidState text => "Invalid state: " ++ text
  | other text => text

def cause? : Error → Option String
  | columnRead _ _ _ cause => some cause
  | statementRejected _ cause => some cause.message
  | json cause => some cause.message
  | io _ text => some text
  | _ => none

/-! ## Consequences -/

/-- What a failing engine says when a new attempt may succeed. -/
def passingTroubles : List String :=
  ["temporarily", "connection reset", "connection lost", "lost connection"]

/-- A new attempt from the last delivered position may succeed. -/
def isRetriable : Error → Bool
  | timeout _ | compression _ => true
  | engine text => passingTroubles.any (Text.mentions (Text.lowercase text))
  | io fault _ => fault ≠ .other
  | _ => false

/-- The error ends the stream. -/
def isFatal : Error → Bool
  | compression _ => false
  | _ => true

def category : Error → ErrorCategory
  | columnRead .. | missingSection .. => .interpretation
  | statementRejected .. | schema _ => .schema
  | engine _ | timeout _ => .replication
  | invalidPosition _ | config _ => .configuration
  | state _ | io .. => .storage
  | compression _ | serialization _ | json _ => .serialization
  | invalidState _ | other _ => .other

def code : Error → String
  | columnRead .. => "column_read_error"
  | missingSection .. => "missing_section"
  | statementRejected .. => "ddl_translation_error"
  | engine _ => "engine_error"
  | compression _ => "compression_error"
  | invalidPosition _ => "invalid_position"
  | schema _ => "schema_error"
  | config _ => "config_error"
  | state _ => "state_error"
  | serialization _ => "serialization_error"
  | json _ => "json_error"
  | io .. => "io_error"
  | timeout _ => "timeout"
  | invalidState _ => "invalid_state"
  | other _ => "unknown"

end Error

end ChangeFeed

import ChangeFeed.Engine.Properties
import ChangeFeed.Position.Codec
import ChangeFeed.Schema.Interpretation

/-!
# Configuration of a reader

Where the source is, how much is buffered, and how long is waited. For a run the configuration is
turned into the properties of the engine.
-/

namespace ChangeFeed

/-- The configuration of a reader. Durations are in milliseconds. -/
structure ReaderSettings where
  host : String
  portNumber : UInt16
  user : String
  password : Option String
  database : String
  /-- The server that positions name. -/
  sourceServer : UInt32
  /-- The server that the reader passes itself off as; drawn at random if there is none. -/
  replica : Option UInt32
  dialect : Schema.Dialect
  queueCapacity : Nat
  pollTimeout : UInt64
  historyInterval : UInt64
  deriving DecidableEq, Repr

namespace ReaderSettings

/-! ## Defaults -/

/-- The configuration in which nothing is set. -/
def unset : ReaderSettings where
  host := "localhost"
  portNumber := 3306
  user := ""
  password := none
  database := ""
  sourceServer := 1
  replica := none
  dialect := .default
  queueCapacity := 10
  pollTimeout := 3000
  historyInterval := 10000

/-- The configuration for a database. -/
def ofSource (host user database : String) : ReaderSettings :=
  { unset with host, user, database }

/-- Whole milliseconds of a duration in microseconds, in 64 bits. -/
def millisOfMicros (micros : Nat) : UInt64 := UInt64.ofNat (micros / 1000)

/-! ## Checks -/

/-- Checks a configuration and tells the first fault. -/
def check (c : ReaderSettings) : Result Unit := do
  if c.host.isEmpty then throw (.config "host must not be empty")
  if c.portNumber = 0 then throw (.config "port must not be 0")
  if c.user.isEmpty then throw (.config "user must not be empty")
  if c.database.isEmpty then throw (.config "database must not be empty")
  if c.queueCapacity = 0 then throw (.config "queue_capacity must be at least 1")
  if c.pollTimeout = 0 ∨ c.historyInterval = 0 then
    throw (.config "timeouts and intervals must be positive")

/-! ## The properties of a run -/

/-- The smallest size of a batch. -/
def leastBatch : UInt64 := 1000

/-- The size of a batch that is asked for, or the smallest one. -/
def batchSize (hint : UInt64) : UInt64 := max hint leastBatch

/-- The engine buffers eight batches, as far as their size fits in 64 bits. -/
def bufferSize (batch : UInt64) : Nat := min (batch.toNat * 8) (UInt64.size - 1)

/-- The first and the last of the servers that a reader may pass itself off as. -/
def replicaRange : UInt32 × UInt32 := (5400, 6400)

/-- The server that a reader passes itself off as in one run. -/
def replicaOf (c : ReaderSettings) (drawn : UInt32) : UInt32 := c.replica.getD drawn

/-- The properties of a run; `batch` is not raised to the smallest size. -/
def properties (c : ReaderSettings) (session : String) (tables : List String)
    (start : Option ResumePoint) (batch : UInt64) (replica : UInt32) : EngineProperties :=
  let common : EngineProperties := .ofList
    [("name", session), ("database.hostname", c.host),
     ("database.port", toString c.portNumber.toNat), ("database.user", c.user),
     ("database.password", c.password.getD ""), ("database.server.name", session),
     ("database.server.id", toString replica.toNat), ("threadName", "binlog-reader-" ++ session),
     ("database.history.skip.unparseable.ddl", "true"),
     ("database.history.store.only.monitored.tables.ddl", "true"),
     ("database.history.store.only.captured.tables.ddl", "true"),
     ("snapshot.locking.mode", "none"), ("snapshot.mode", "schema_only_recovery"),
     ("time.precision.mode", "adaptive_time_microseconds"),
     ("max.queue.size", toString (bufferSize batch)), ("max.batch.size", toString batch.toNat),
     ("database.include.list", c.database),
     ("table.include.list", ",".intercalate (tables.map fun t => c.database ++ "." ++ t))]
  match start with
  | some p => common.insert "offset.string" p.toJson.render
  | none => common

end ReaderSettings

end ChangeFeed

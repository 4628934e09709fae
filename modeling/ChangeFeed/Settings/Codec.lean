import ChangeFeed.Settings
import ChangeFeed.Text.Diagnosis

/-!
# Configuration of a reader: JSON and text for diagnosis

Every part of a configuration may be missing and has then its default value. In a text for diagnosis
the password does not appear.
-/

namespace ChangeFeed

open Json (Decode)
open Json.Fields (withDefault)

/-! ## Dialects -/

namespace Schema.Dialect

def decode : Decode Dialect :=
  Json.decodeAlternative [("basic", basic), ("passthrough", passthrough)]

def describe : Dialect → String
  | basic => "Basic"
  | passthrough => "Passthrough"

end Schema.Dialect

namespace ReaderSettings

/-! ## JSON -/

/-- A value that may be missing. -/
def orNull (v : Option Json) : Json := v.getD .null

/-- The JSON form of a configuration, with the password. -/
def toJson (c : ReaderSettings) : Json :=
  .object
    [("host", .string c.host), ("port", .int c.portNumber.toNat), ("user", .string c.user),
     ("password", orNull (c.password.map .string)), ("database", .string c.database),
     ("source_server_id", .int c.sourceServer.toNat),
     ("replica_id", orNull (c.replica.map fun n => .int n.toNat)),
     ("ddl_dialect", .string c.dialect.name), ("queue_capacity", .int c.queueCapacity),
     ("poll_timeout_ms", .int c.pollTimeout.toNat),
     ("history_interval_ms", .int c.historyInterval.toNat)]

def decode : Decode ReaderSettings :=
  (ReaderSettings.mk <$> withDefault "host" Json.decodeString unset.host
    <*> withDefault "port" Json.decodeUInt16 unset.portNumber
    <*> withDefault "user" Json.decodeString unset.user
    <*> withDefault "password" (Json.decodeOption Json.decodeString) unset.password
    <*> withDefault "database" Json.decodeString unset.database
    <*> withDefault "source_server_id" Json.decodeUInt32 unset.sourceServer
    <*> withDefault "replica_id" (Json.decodeOption Json.decodeUInt32) unset.replica
    <*> withDefault "ddl_dialect" Schema.Dialect.decode unset.dialect
    <*> withDefault "queue_capacity" Json.decodeSize unset.queueCapacity
    <*> withDefault "poll_timeout_ms" Json.decodeUInt64 unset.pollTimeout
    <*> withDefault "history_interval_ms" Json.decodeUInt64 unset.historyInterval).decode
    "struct ReaderConfig"

/-- The configuration that a value tells, if it can be used. -/
def ofJson (v : Json) : Result ReaderSettings :=
  match Json.decodeValue decode v with
  | .error e => .error (.config ("Invalid reader config: " ++ e.message))
  | .ok c => do
    c.check
    return c

/-! ## Diagnosis -/

/-- What stands for the password. -/
def redacted : String := "[REDACTED]"

/-- The text of a configuration in a message. -/
def describe (c : ReaderSettings) : String :=
  Text.fields "ReaderConfig"
    [("host", Text.quoted c.host), ("port", toString c.portNumber.toNat),
     ("user", Text.quoted c.user),
     ("password", Text.optional (c.password.map fun _ => Text.quoted redacted)),
     ("database", Text.quoted c.database), ("source_server_id", toString c.sourceServer.toNat),
     ("replica_id", Text.optional (c.replica.map fun n => toString n.toNat)),
     ("ddl_dialect", c.dialect.describe), ("queue_capacity", toString c.queueCapacity),
     ("poll_timeout_ms", toString c.pollTimeout.toNat),
     ("history_interval_ms", toString c.historyInterval.toNat)]

end ReaderSettings

end ChangeFeed

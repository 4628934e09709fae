import ChangeFeed.Error
import ChangeFeed.Record

/-!
# Engines: Scripts

An engine that follows a script: it hands records over one at a time and can do whatever else an
engine and its surroundings do to a session.
-/

namespace ChangeFeed

/-- One step of a script. -/
inductive EngineStep where
  /-- Hands a record over. A lenient engine goes on when the record is rejected. -/
  | record (record : LogRecord) (isLenient : Bool)
  /-- Comes across something that is no record. -/
  | malformed (fault : Error)
  | stop
  /-- Looks whether the session runs. -/
  | observe
  /-- Waits until the engine is closed. -/
  | awaitClose
  /-- Does nothing for some milliseconds. -/
  | sleep (duration : Nat)
  /-- Reports a failure, and ends unless it goes on nevertheless. -/
  | fail (message : String) (cause : Option Error) (goesOn : Bool)
  deriving Repr

def engineFailure (message : String) : (cause : Option Error) → Error
  | none => .engine message
  | some cause =>
    .engine (if message.isEmpty then cause.message else message ++ ": " ++ cause.message)

end ChangeFeed

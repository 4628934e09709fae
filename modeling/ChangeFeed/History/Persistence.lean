import ChangeFeed.History.Blob
import ChangeFeed.Store

/-!
# The schema history: Persistence

The history in a store. A write that fails leaves the cache dirty, so that the next one repeats it.
-/

namespace ChangeFeed

/-- How an attempt to write ended. -/
inductive HistoryOutcome where
  | persisted
  | clean
  | inFlight
  deriving DecidableEq, Repr

namespace SchemaHistory

variable {σ : Type} [Store σ]

def storeKey : String := "MYSQL_SCHEMA_HISTORY"

/-- What a store holds of a snapshot. -/
def stored [Gzip.Packer] (s : StatementLists) : Json := .string s.pack

/-- Writes what a capture holds. -/
def put [Gzip.Packer] (capture : HistoryCapture) : Access σ Unit :=
  Store.put storeKey (stored capture.tables)

/-- Writes the history if it is dirty and no other write is under way. -/
def persist [Gzip.Packer] (c : SchemaHistory) :
    StateM σ (Result HistoryOutcome × SchemaHistory) := do
  match c.beginWrite with
  | (.inFlight, c) => return (.ok .inFlight, c)
  | (.clean, c) => return (.ok .clean, c)
  | (.started capture, c) =>
    match ← (put capture).run with
    | .ok _ => return (.ok .persisted, c.endWrite true)
    | .error e => return (.error e, c.endWrite false)

/-- The snapshot in a store. -/
def fetch : Access σ (Option StatementLists) := do
  match ← Store.getText storeKey with
  | none => return none
  | some text => return some (← MonadExcept.ofExcept (StatementLists.unpack text))

/-- Merges the snapshot in a store, if there is one, and tells how many statements were new. -/
def load (c : SchemaHistory) : Access σ (Nat × SchemaHistory) := do
  match ← fetch with
  | none => return (0, c)
  | some stored => return c.merge stored

end SchemaHistory

end ChangeFeed

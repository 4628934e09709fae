import ChangeFeed.SortedMap

/-!
# The schema history

For every table the statements that changed its structure, each once, in the order in which they
were first seen. The history only grows. It is written as a whole, one write at a time, and is clean
when nothing changed since the last write that succeeded.
-/

namespace ChangeFeed

/-! ## Snapshots -/

abbrev StatementLists := SortedMap (List String)

namespace StatementLists

def statements (s : StatementLists) (table : String) : List String := (s.get? table).getD []

/-- Puts the unknown ones of `stored` behind the known statements and counts them. -/
def appendNew (known : List String) : (stored : List String) → List String × Nat
  | [] => (known, 0)
  | s :: rest =>
    if s ∈ known then appendNew known rest
    else
      let (all, added) := appendNew (known ++ [s]) rest
      (all, added + 1)

/-- Merges the tables of `stored` into a snapshot and counts the statements that are new. -/
def mergeTables (s : StatementLists) : (stored : List (String × List String)) →
    StatementLists × Nat
  | [] => (s, 0)
  | (table, stored) :: rest =>
    let (known, here) := appendNew (s.statements table) stored
    let (s, there) := mergeTables (s.insert table known) rest
    (s, here + there)

end StatementLists

/-! ## The cache -/

/-- What a write takes along: the snapshot, and which state of the cache it is. -/
structure HistoryCapture where
  generation : Nat
  tables : StatementLists
  deriving DecidableEq, Repr

/-- The history of a reader. -/
structure SchemaHistory where
  tables : StatementLists
  /-- Grows with every change. -/
  generation : Nat
  /-- The generation that is known to be stored. -/
  saved : Nat
  /-- What the write under way has taken along. -/
  writing : Option HistoryCapture
  deriving DecidableEq, Repr

/-- How an attempt to write begins. -/
inductive HistoryWrite where
  /-- Another write is under way. -/
  | inFlight
  /-- Nothing changed since the last write. -/
  | clean
  | started (capture : HistoryCapture)
  deriving DecidableEq, Repr

namespace SchemaHistory

/-- The history that knows no statements. -/
def empty : SchemaHistory := ⟨.empty, 0, 0, none⟩

def size (c : SchemaHistory) : Nat := c.tables.size

/-- The statements of a table, the oldest first. -/
def statements (c : SchemaHistory) (table : String) : List String := c.tables.statements table

/-- Something changed since the last write that succeeded. -/
def isDirty (c : SchemaHistory) : Bool := c.generation ≠ c.saved

/-- Records a statement, and tells whether it was new for the table. -/
def record (c : SchemaHistory) (table statement : String) : Bool × SchemaHistory :=
  let known := c.statements table
  if statement ∈ known then (false, c)
  else
    (true,
      { c with
        tables := c.tables.insert table (known ++ [statement])
        generation := c.generation + 1 })

/-- Merges a stored snapshot, and tells how many statements were new. The cache is clean if it is
equal to the snapshot then. -/
def merge (c : SchemaHistory) (stored : StatementLists) : Nat × SchemaHistory :=
  let (tables, added) := c.tables.mergeTables stored.entries
  -- A merge counts as a change even if it brings nothing new.
  let generation := c.generation + 1
  (added,
    { c with tables, generation, saved := if tables = stored then generation else c.saved })

/-! ## Writing -/

def beginWrite (c : SchemaHistory) : HistoryWrite × SchemaHistory :=
  if c.writing.isSome then (.inFlight, c)
  else if c.isDirty then
    let capture := ⟨c.generation, c.tables⟩
    (.started capture, { c with writing := some capture })
  else (.clean, c)

/-- Ends the write under way. -/
def endWrite (c : SchemaHistory) (succeeded : Bool) : SchemaHistory :=
  match c.writing with
  | some capture =>
    -- What was recorded while the write was under way is not in its capture.
    { c with writing := none, saved := if succeeded then capture.generation else c.saved }
  | none => c

end SchemaHistory

end ChangeFeed

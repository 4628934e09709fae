import ChangeFeed.Error

/-!
# Reading the rows of a table

The rows that a table holds at the start are read through a cursor, one after the other, and handed
over. One way of reading keeps the key of the last row as an offset, so that an interrupted reading
goes on behind it; the other takes what a query selects and keeps nothing.
-/

namespace ChangeFeed

/-! ## Cursors -/

/-- A cell of a row, or why it cannot be read. -/
abbrev Cell := Except String Value

/-- What a cursor will find: its columns, and row after row, or why a row cannot be fetched. -/
structure RowStream where
  columns : List String
  rows : List (Except String (List Cell))
  deriving Repr

/-! ## Offsets -/

/-- Behind which row of a table to go on: the values of its key. -/
structure SnapshotMark where
  table : String
  key : Row
  deriving Repr

namespace SnapshotMark

/-- The offset before the first row. -/
def initial (table : String) : SnapshotMark := ⟨table, .empty⟩

/-- No row was read. -/
def isInitial (o : SnapshotMark) : Bool := o.key.isEmpty

/-- The offset with one more value, if the column belongs to the key. -/
def note (keys : List String) (o : SnapshotMark) (column : String) (value : Value) :
    SnapshotMark :=
  if column ∈ keys then { o with key := o.key.insert column value } else o

end SnapshotMark

/-! ## Rows -/

/-- Why a row cannot be read: the column, the columns read before, and the cause. -/
structure CellFault where
  column : String
  done : Row
  cause : String
  deriving Repr

/-- The fault as an error in a row, counted from one. -/
def CellFault.toError (f : CellFault) (row : Nat) : Error :=
  .columnRead row f.column f.done f.cause

/-- A row that cannot be fetched, counted from one. -/
def fetchFault (row : Nat) (cause : String) : Error :=
  .other ("Fetching row " ++ toString row ++ " failed: " ++ cause)

/-- What is found behind the last cell of a row. -/
def noCell : Cell := .error "no such column"

/-- Reads the cells of a row; every one that is read is shown to `note`. -/
def readCells {α : Type} (note : α → String → Value → α) :
    (columns : List String) → List Cell → (done : Row) → α → Except CellFault Row × α
  | [], _, done, a => (.ok done, a)
  | column :: columns, cells, done, a =>
    match cells.headD noCell with
    | .error cause => (.error ⟨column, done, cause⟩, a)
    | .ok value =>
      readCells note columns cells.tail (done.insert column value) (note a column value)

/-! ## Readings -/

/-- How a reading went: its result, which counts the rows, what was handed over, how often the
cursor was advanced, and what is kept. -/
structure RowReading (α : Type) where
  result : Result Nat
  handed : List (Row × α)
  advances : Nat
  kept : α
  deriving Repr

namespace RowReading

variable {α : Type}

/-- A reading that ends before the cursor is advanced. -/
def ended (result : Result Nat) (kept : α) : RowReading α := ⟨result, [], 0, kept⟩

/-- One advance more, in front of a reading. -/
def behindAdvance (r : RowReading α) : RowReading α := { r with advances := r.advances + 1 }

/-- A row that is handed over in front of a reading. -/
def behindRow (row : Row) (a : α) (r : RowReading α) : RowReading α :=
  { r with handed := (row, a) :: r.handed }

end RowReading

/-- Who takes rows: for each of them, counted from one, whether it is accepted. -/
abbrev RowConsumer (α : Type) := (number : Nat) → Row → α → Result Unit

/-- Reads the row that the cursor stands on, hands it over, and goes on with `next`. -/
def takeRow {α : Type} (note : α → String → Value → α) (columns : List String)
    (consumer : RowConsumer α) (number : Nat) (cells : List Cell) (kept : α)
    (next : α → RowReading α) : RowReading α :=
  match readCells note columns cells .empty kept with
  | (.error fault, kept) => .ended (.error (fault.toError number)) kept
  | (.ok row, kept) =>
    match consumer number row kept with
    | .error e => (RowReading.ended (.error e) kept).behindRow row kept
    | .ok _ => (next kept).behindRow row kept

/-- Reads rows and keeps the key of the last one. Whether to stop is asked before the cursor is
advanced; `stop` is told how many rows were handed over. -/
def readMarked (columns keys : List String) (stop : Nat → Bool)
    (consumer : RowConsumer SnapshotMark) (count : Nat) (offset : SnapshotMark) :
    List (Except String (List Cell)) → RowReading SnapshotMark
  | [] =>
    if stop count then .ended (.ok count) offset
    else (RowReading.ended (.ok count) offset).behindAdvance
  -- A row that cannot be fetched ends the reading, so the rows behind it do not count.
  | .error cause :: _ =>
    if stop count then .ended (.ok count) offset
    else (RowReading.ended (.error (fetchFault (count + 1) cause)) offset).behindAdvance
  | .ok cells :: rows =>
    if stop count then .ended (.ok count) offset
    else
      (takeRow (SnapshotMark.note keys) columns consumer (count + 1) cells offset
        fun offset => readMarked columns keys stop consumer (count + 1) offset rows).behindAdvance

/-- Reads the rows of a query. Whether to stop is asked behind every advance, so the row that was
fetched then is lost. -/
def readPlain (columns : List String) (stop : Nat → Bool) (consumer : RowConsumer Unit)
    (count : Nat) : List (Except String (List Cell)) → RowReading Unit
  | [] => (RowReading.ended (.ok count) ()).behindAdvance
  | .error cause :: _ =>
    (RowReading.ended (.error (fetchFault (count + 1) cause)) ()).behindAdvance
  | .ok cells :: rows =>
    -- The cursor was advanced already, and its row is dropped.
    if stop count then (RowReading.ended (.ok count) ()).behindAdvance
    else
      (takeRow (fun _ _ _ => ()) columns consumer (count + 1) cells ()
        fun _ => readPlain columns stop consumer (count + 1) rows).behindAdvance

namespace RowStream

/-- Reads the rows of a cursor from its start and keeps the key of the last one. -/
def readFrom (c : RowStream) (offset : SnapshotMark) (keys : List String) (stop : Nat → Bool)
    (consumer : RowConsumer SnapshotMark) : RowReading SnapshotMark :=
  readMarked c.columns keys stop consumer 0 offset c.rows

/-- Reads the rows of a cursor from its start. -/
def readAll (c : RowStream) (stop : Nat → Bool) (consumer : RowConsumer Unit) : RowReading Unit :=
  readPlain c.columns stop consumer 0 c.rows

end RowStream

end ChangeFeed

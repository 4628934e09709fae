import ChangeFeed.Proofs.SortedMap
import ChangeFeed.Snapshot

/-!
# Reading the rows of a table: The offset

Whoever reads rows and keeps an offset enters the values of the key into it cell by cell, while a
row is being read. Where the reading fails in the middle of a row, or the row is rejected, what was
read of its key stays in the offset, although the row was not accepted.

## Main results

* `readCells_snd`: a row leaves behind the part of its key that was read.
* `kept_readMarked`: the offset that is left, from the one that came with the last accepted row.
* `offset_behind_accepted_iff`: when a reading that failed leaves the offset behind that row.
-/

namespace ChangeFeed

/-! ## Offsets and rows -/

namespace SnapshotMark

variable {keys : List String} {o p : SnapshotMark} {row : Row}

/-- The offset with the key of a row, as far as the row has it. -/
def noteRow (keys : List String) (o : SnapshotMark) (row : Row) : SnapshotMark :=
  { o with key := o.key.overlay (row.filter fun column _ => column ∈ keys) }

/-- An offset is its table and the values of its key. -/
theorem ext_key (htable : o.table = p.table) (hkey : ∀ k, o.key.get? k = p.key.get? k) : o = p := by
  cases o
  cases p
  rw [mk.injEq]
  exact ⟨htable, SortedMap.ext_get? hkey⟩

/-- The columns of the key take their values from the row, as far as it has any. -/
theorem get?_noteRow (keys : List String) (o : SnapshotMark) (row : Row) (k : String) :
    (o.noteRow keys row).key.get? k =
      if k ∈ keys then (row.get? k).or (o.key.get? k) else o.key.get? k := by
  rw [noteRow, SortedMap.get?_overlay, SortedMap.get?_filter]
  by_cases hk : k ∈ keys
  · cases row.get? k <;> simp [hk]
  · cases row.get? k <;> simp [hk]

/-- Nothing is noted of an empty row. -/
@[simp] theorem noteRow_empty (keys : List String) (o : SnapshotMark) :
    o.noteRow keys .empty = o := by
  refine ext_key rfl fun k => ?_
  rw [get?_noteRow, SortedMap.get?_empty, Option.none_or, ite_self]

/-- One more cell of a row is one more value in the offset. -/
theorem noteRow_insert (keys : List String) (o : SnapshotMark) (row : Row) (column : String)
    (value : Value) :
    o.noteRow keys (row.insert column value) = (o.noteRow keys row).note keys column value := by
  rw [note]
  -- Columns outside the key are not noted, so that the row may have them or not.
  split
  next hcolumn =>
    refine ext_key rfl fun k => ?_
    rw [get?_noteRow, SortedMap.get?_insert, SortedMap.get?_insert, get?_noteRow]
    by_cases hk : k = column
    · simp [hk, hcolumn]
    · simp [hk]
  next hcolumn =>
    refine ext_key rfl fun k => ?_
    rw [get?_noteRow, SortedMap.get?_insert, get?_noteRow]
    by_cases hk : k = column
    · simp [hk, hcolumn]
    · simp [hk]

/-- A row changes nothing in an offset that has its key already. -/
theorem noteRow_eq_self_iff :
    o.noteRow keys row = o ↔
      ∀ column ∈ keys, ∀ value, row.get? column = some value → o.key.get? column = some value := by
  -- A column that is noted has the value of the row; it had the same before if nothing changed.
  constructor
  · intro hsame column hcolumn value hvalue
    have hnoted := get?_noteRow keys o row column
    rw [hsame, if_pos hcolumn, hvalue, Option.some_or] at hnoted
    exact hnoted
  · intro hkey
    refine ext_key rfl fun k => ?_
    rw [get?_noteRow]
    split
    next hk =>
      cases hvalue : row.get? k with
      | none => exact Option.none_or
      | some value => exact (hkey k hk value hvalue).symm
    next => rfl

end SnapshotMark

/-! ## Reading a row -/

variable {α : Type} {columns keys : List String} {cells : List Cell} {done : Row}

/-- Reads a row and keeps nothing. -/
def readRow (columns : List String) (cells : List Cell) : Except CellFault Row :=
  (readCells (fun _ _ _ => ()) columns cells .empty ()).1

/-- What was read of a row: all of it, or the columns in front of the one that cannot be read. -/
def readPart : Except CellFault Row → Row
  | .ok row => row
  | .error fault => fault.done

/-- What is kept while a row is read has no influence on the row. -/
theorem readCells_fst (note : α → String → Value → α) (columns : List String) (cells : List Cell)
    (done : Row) (a : α) :
    (readCells note columns cells done a).1 =
      (readCells (fun _ _ _ => ()) columns cells done ()).1 := by
  induction columns generalizing cells done a with
  | nil => rfl
  -- What is kept is passed along the columns, and the row is built beside it.
  | cons column columns ih =>
    simp only [readCells]
    cases cells.headD noCell with
    | error cause => rfl
    | ok value => exact ih cells.tail (done.insert column value) (note a column value)

/-- **What a row leaves behind**: the part of its key that was read is in the offset. -/
theorem readCells_snd (keys columns : List String) (cells : List Cell) (done : Row)
    (o : SnapshotMark) :
    (readCells (SnapshotMark.note keys) columns cells done (o.noteRow keys done)).2 =
      o.noteRow keys (readPart (readCells (fun _ _ _ => ()) columns cells done ()).1) := by
  -- The row grows cell by cell, and its keys are noted as they come.
  induction columns generalizing cells done with
  | nil => rfl
  | cons column columns ih =>
    simp only [readCells]
    cases cells.headD noCell with
    | error cause => rfl
    | ok value =>
      simp only
      rw [← SnapshotMark.noteRow_insert]
      exact ih cells.tail (done.insert column value)

/-- A row is read and what was read of it is noted, even if its end cannot be read. -/
theorem readCells_eq (keys columns : List String) (cells : List Cell) (o : SnapshotMark) :
    readCells (SnapshotMark.note keys) columns cells .empty o =
      (readRow columns cells, o.noteRow keys (readPart (readRow columns cells))) := by
  have hkept := readCells_snd keys columns cells .empty o
  rw [SnapshotMark.noteRow_empty] at hkept
  exact Prod.ext (readCells_fst _ columns cells .empty o) hkept

/-! ## Taking a row -/

section Taking

variable {consumer : RowConsumer SnapshotMark} {number : Nat} {offset : SnapshotMark}
  {next : SnapshotMark → RowReading SnapshotMark}

/-- A row that cannot be read ends the reading. -/
theorem takeRow_of_error {fault : CellFault} (hrow : readRow columns cells = .error fault) :
    takeRow (SnapshotMark.note keys) columns consumer number cells offset next =
      .ended (.error (fault.toError number)) (offset.noteRow keys fault.done) := by
  rw [takeRow, readCells_eq, hrow]
  rfl

/-- A row that is read is handed over, and the reading goes on if it is accepted. -/
theorem takeRow_of_ok {row : Row} (hrow : readRow columns cells = .ok row) :
    takeRow (SnapshotMark.note keys) columns consumer number cells offset next =
      match consumer number row (offset.noteRow keys row) with
      | .error e =>
        (RowReading.ended (.error e) (offset.noteRow keys row)).behindRow row
          (offset.noteRow keys row)
      | .ok _ => (next (offset.noteRow keys row)).behindRow row (offset.noteRow keys row) := by
  rw [takeRow, readCells_eq, hrow]
  rfl

end Taking

/-! ## Accepted rows -/

/-- The rows that were accepted, out of those that were handed over behind `count` others: all that
come before the first rejected one. -/
def acceptedRows (consumer : RowConsumer α) (count : Nat) : List (Row × α) → List (Row × α)
  | [] => []
  | (row, a) :: rest =>
    if (consumer (count + 1) row a).isOk then (row, a) :: acceptedRows consumer (count + 1) rest
    else []

/-- The offset that came with the last of some rows; without any, the one before them. -/
def offsetAfter (initial : SnapshotMark) (rows : List (Row × SnapshotMark)) : SnapshotMark :=
  (rows.getLast?.map Prod.snd).getD initial

@[simp] theorem offsetAfter_nil (initial : SnapshotMark) : offsetAfter initial [] = initial := rfl

/-- The offset in force is that of the last row. -/
@[simp] theorem offsetAfter_cons (initial : SnapshotMark) (e : Row × SnapshotMark)
    (rows : List (Row × SnapshotMark)) :
    offsetAfter initial (e :: rows) = offsetAfter e.2 rows := by
  cases rows with
  | nil => rfl
  | cons f rows => simp [offsetAfter, List.getLast?_cons]

/-- What can be read of the row in some place; nothing if there is none or it cannot be fetched. -/
def readableRow (columns : List String) (rows : List (Except String (List Cell))) (i : Nat) : Row :=
  match rows[i]? with
  | some (.ok cells) => readPart (readRow columns cells)
  | _ => .empty

/-- **What a reading leaves**: the offset that came with the last accepted row. If the reading
failed, what was read of the key of the next row is in it as well. -/
theorem kept_readMarked (columns keys : List String) (stop : Nat → Bool)
    (consumer : RowConsumer SnapshotMark) (count : Nat) (offset : SnapshotMark)
    (rows : List (Except String (List Cell))) {r : RowReading SnapshotMark}
    (hr : readMarked columns keys stop consumer count offset rows = r) :
    r.kept =
      match r.result with
      | .ok _ => offsetAfter offset (acceptedRows consumer count r.handed)
      | .error _ =>
        (offsetAfter offset (acceptedRows consumer count r.handed)).noteRow keys
          (readableRow columns rows (acceptedRows consumer count r.handed).length) := by
  -- The induction is on the rows. What was noted of a row counts whether the row was accepted, was
  -- rejected or could not be read to its end.
  induction rows generalizing count offset r with
  | nil =>
    simp only [readMarked] at hr
    split at hr <;> subst hr <;> rfl
  | cons row rows ih =>
    cases row with
    | error cause =>
      simp only [readMarked] at hr
      split at hr
      · subst hr
        rfl
      · subst hr
        exact (SnapshotMark.noteRow_empty keys offset).symm
    | ok cells =>
      simp only [readMarked] at hr
      split at hr
      next =>
        subst hr
        rfl
      next =>
        cases hrow : readRow columns cells with
        | error fault =>
          rw [takeRow_of_error hrow] at hr
          subst hr
          -- The row broke off, and what was read of its key up to there stays in the offset.
          simp [RowReading.behindAdvance, RowReading.ended, acceptedRows, readableRow, hrow,
            readPart]
        | ok row =>
          rw [takeRow_of_ok hrow] at hr
          cases hanswer : consumer (count + 1) row (offset.noteRow keys row) with
          | error e =>
            rw [hanswer] at hr
            subst hr
            simp [RowReading.behindAdvance, RowReading.behindRow, RowReading.ended, acceptedRows,
              readableRow, hrow, readPart, hanswer, Except.isOk, Except.toBool]
          | ok _ =>
            rw [hanswer] at hr
            subst hr
            have hlater := ih (count + 1) (offset.noteRow keys row) rfl
            -- The row was accepted, so the offset that came with it is the one in force from here
            -- on.
            simpa [RowReading.behindAdvance, RowReading.behindRow, acceptedRows, hanswer,
              readableRow, Except.isOk, Except.toBool] using hlater

/-! ## The offset in force -/

namespace RowReading

/-- The rows that were accepted, each with what was kept then. -/
def accepted (r : RowReading α) (consumer : RowConsumer α) : List (Row × α) :=
  acceptedRows consumer 0 r.handed

/-- The offset behind the rows that were accepted. -/
def inForce (r : RowReading SnapshotMark) (consumer : RowConsumer SnapshotMark)
    (initial : SnapshotMark) : SnapshotMark :=
  offsetAfter initial (r.accepted consumer)

end RowReading

section Reading

variable {c : RowStream} {offset : SnapshotMark} {stop : Nat → Bool}
  {consumer : RowConsumer SnapshotMark} {r : RowReading SnapshotMark}

/-- **Behind the accepted rows**: a reading that failed leaves the offset in force with all that was
read of the next row's key in it. So it leaves the offset in force exactly if nothing was read of
that key, or only values that the offset had. -/
theorem offset_behind_accepted_iff (hr : c.readFrom offset keys stop consumer = r) {e : Error}
    (herror : r.result = .error e) :
    r.kept = (r.inForce consumer offset).noteRow keys
        (readableRow c.columns c.rows (r.accepted consumer).length) ∧
      (r.kept = r.inForce consumer offset ↔
        ∀ column ∈ keys, ∀ value,
          (readableRow c.columns c.rows (r.accepted consumer).length).get? column = some value →
            (r.inForce consumer offset).key.get? column = some value) := by
  -- With a failure, the mark in force was advanced by the keys of what could be read.
  have hkept := kept_readMarked c.columns keys stop consumer 0 offset c.rows hr
  rw [herror] at hkept
  have hnoted : r.kept = (r.inForce consumer offset).noteRow keys
      (readableRow c.columns c.rows (r.accepted consumer).length) := hkept
  refine ⟨hnoted, ?_⟩
  rw [hnoted]
  exact SnapshotMark.noteRow_eq_self_iff

end Reading

def orderKey : List String := ["region", "id"]

/-- The second order cannot be fetched. -/
def lostOrder : RowStream :=
  ⟨orderKey, [.ok [.ok (.int 1), .ok (.int 10)], .error "connection lost"]⟩

def lostOrderReading : RowReading SnapshotMark :=
  lostOrder.readFrom (.initial "orders") orderKey (fun _ => false) fun _ _ _ => .ok ()

/-- A row that cannot be fetched leaves the offset behind the one before it. -/
theorem lostOrder_keeps_offset :
    lostOrderReading.result = .error (fetchFault 2 "connection lost") ∧
      lostOrderReading.kept =
        lostOrderReading.inForce (fun _ _ _ => .ok ()) (.initial "orders") ∧
      lostOrderReading.kept.key.entries = [("id", .int 10), ("region", .int 1)] := by
  have herror : lostOrderReading.result = .error (fetchFault 2 "connection lost") := rfl
  refine ⟨herror, (offset_behind_accepted_iff rfl herror).2.2 ?_, rfl⟩
  intro column _ value hvalue
  cases hvalue

/-- The second order cannot be read behind the first column of its key. -/
def tornOrder : RowStream :=
  ⟨orderKey, [.ok [.ok (.int 1), .ok (.int 10)], .ok [.ok (.int 2), .error "corrupt value"]]⟩

def tornOrderReading : RowReading SnapshotMark :=
  tornOrder.readFrom (.initial "orders") orderKey (fun _ => false) fun _ _ _ => .ok ()

/-- A row that fails between two columns of the key leaves an offset with values of two rows. -/
theorem tornOrder_mixes_keys :
    tornOrderReading.result =
        .error (.columnRead 2 "id" (.single "region" (.int 2)) "corrupt value") ∧
      (tornOrderReading.inForce (fun _ _ _ => .ok ()) (.initial "orders")).key.entries =
        [("id", .int 10), ("region", .int 1)] ∧
      tornOrderReading.kept.key.entries = [("id", .int 10), ("region", .int 2)] ∧
      tornOrderReading.kept ≠
        tornOrderReading.inForce (fun _ _ _ => .ok ()) (.initial "orders") := by
  refine ⟨rfl, rfl, rfl, fun hsame => ?_⟩
  have hregion := congrArg (fun o : SnapshotMark => (o.key.get? "region").bind Value.int?) hsame
  exact absurd hregion (by decide)

end ChangeFeed

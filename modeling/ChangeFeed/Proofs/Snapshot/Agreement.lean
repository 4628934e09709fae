import ChangeFeed.Proofs.Snapshot.Offset

/-!
# Reading the rows of a table: Agreement

Whoever reads rows and keeps an offset asks whether to stop before the cursor is advanced. Whoever
reads the rows of a query asks behind the advance, so that the row which was fetched is dropped. As
long as neither is told to stop, both hand over the same rows, number them alike and fail alike.

## Main results

* `SnapshotMark.noteRow_noteRow`: the key of a whole row takes the place of the one before it.
* `agrees_read`: the two readings of the rows behind some others, step by step.
* `readings_agree`: the two readings of a cursor.
-/

namespace ChangeFeed

variable {α : Type} {columns keys : List String} {cells : List Cell}

/-! ## Whole rows -/

/-- The row has a value in each of the columns, and in no other one. -/
def HasColumns (columns : List String) (row : Row) : Prop :=
  ∀ k, (row.get? k).isSome = true ↔ k ∈ columns

/-- Cells that are all read add their columns to the row. -/
theorem isSome_get?_readCells {done row : Row}
    (h : (readCells (fun _ _ _ => ()) columns cells done ()).1 = .ok row) (k : String) :
    (row.get? k).isSome = true ↔ k ∈ columns ∨ (done.get? k).isSome = true := by
  induction columns generalizing cells done with
  | nil =>
    cases h
    simp
  | cons column columns ih =>
    simp only [readCells] at h
    cases hcell : cells.headD noCell with
    | error cause =>
      rw [hcell] at h
      cases h
    | ok value =>
      rw [hcell] at h
      rw [ih h, SortedMap.get?_insert, List.mem_cons]
      -- The column that was read last may have been read before.
      by_cases hk : k = column
      · simp [hk]
      · simp [hk]

/-- A row that was read has a value in every column. -/
theorem hasColumns_of_readRow {row : Row} (h : readRow columns cells = .ok row) :
    HasColumns columns row := by
  intro k
  rw [isSome_get?_readCells h]
  simp

/-- The key of a whole row takes the place of the one of another row. -/
theorem SnapshotMark.noteRow_noteRow {earlier later : Row} (hearlier : HasColumns columns earlier)
    (hlater : HasColumns columns later) (o : SnapshotMark) :
    (o.noteRow keys earlier).noteRow keys later = o.noteRow keys later := by
  refine ext_key rfl fun k => ?_
  rw [get?_noteRow, get?_noteRow, get?_noteRow]
  by_cases hk : k ∈ keys
  · simp only [if_pos hk]
    cases hvalue : later.get? k with
    | some value => rfl
    | none =>
      -- What the later row lacks is no column, so the earlier row lacks it too.
      have hcolumn : k ∉ columns := by
        intro hmem
        have hsome := (hlater k).2 hmem
        rw [hvalue] at hsome
        cases hsome
      have hnone : earlier.get? k = none := by
        simpa using mt (hearlier k).1 hcolumn
      rw [hnone, Option.none_or]
  · simp only [if_neg hk]

/-! ## What a reading tells -/

namespace RowReading

section Fields

variable (r : RowReading α) (row : Row) (a : α) (result : Result Nat)

@[simp] theorem result_ended : (ended result a).result = result := rfl
@[simp] theorem handed_ended : (ended result a).handed = [] := rfl
@[simp] theorem advances_ended : (ended result a).advances = 0 := rfl

@[simp] theorem result_behindAdvance : r.behindAdvance.result = r.result := rfl
@[simp] theorem handed_behindAdvance : r.behindAdvance.handed = r.handed := rfl
@[simp] theorem advances_behindAdvance : r.behindAdvance.advances = r.advances + 1 := rfl

@[simp] theorem result_behindRow : (r.behindRow row a).result = r.result := rfl
@[simp] theorem handed_behindRow : (r.behindRow row a).handed = (row, a) :: r.handed := rfl
@[simp] theorem advances_behindRow : (r.behindRow row a).advances = r.advances := rfl

end Fields

/-- A reading ends at the request to stop: it did not fail, and the request is there for the number
of rows that it tells. -/
def EndsAtStop (stop : Nat → Bool) (r : RowReading α) : Prop :=
  ∃ count, r.result = .ok count ∧ stop count = true

/-- A reading drops a row: it did not fail, and behind the rows that were handed over there is one
that the cursor was advanced to. -/
def DropsRow (rows : List (Except String (List Cell))) (r : RowReading α) : Prop :=
  (∃ count, r.result = .ok count) ∧ r.advances = r.handed.length + 1 ∧
    ∃ cells, rows[r.handed.length]? = some (.ok cells)

/-- A reading that fails was not ended by the request to stop. -/
theorem not_endsAtStop_of_error {stop : Nat → Bool} {r : RowReading α} {e : Error}
    (h : r.result = .error e) : ¬ r.EndsAtStop stop := by
  rintro ⟨count, hok, -⟩
  rw [h] at hok
  cases hok

end RowReading

/-- What comes of one more advance behind `count` rows, if the row is not taken: the number of rows,
or the failure of this advance. -/
def afterStop (row : Option (Except String (List Cell))) (count : Nat) : Result Nat :=
  match row with
  | some (.error cause) => .error (fetchFault (count + 1) cause)
  | _ => .ok count

/-! ## Reading without an offset -/

section Plain

variable {consumer : RowConsumer Unit} {number : Nat} {next : Unit → RowReading Unit}

theorem readCells_plain (columns : List String) (cells : List Cell) :
    readCells (fun _ _ _ => ()) columns cells .empty () = (readRow columns cells, ()) := rfl

/-- A row that cannot be read ends the reading with the fault of its cell. -/
theorem takeRow_plain_of_error {fault : CellFault} (hrow : readRow columns cells = .error fault) :
    takeRow (fun _ _ _ => ()) columns consumer number cells () next =
      .ended (.error (fault.toError number)) () := by
  rw [takeRow, readCells_plain, hrow]

/-- A row that can be read is handed over, and the reading goes on if the consumer takes it. -/
theorem takeRow_plain_of_ok {row : Row} (hrow : readRow columns cells = .ok row) :
    takeRow (fun _ _ _ => ()) columns consumer number cells () next =
      match consumer number row () with
      | .error e => (RowReading.ended (.error e) ()).behindRow row ()
      | .ok _ => (next ()).behindRow row () := by
  cases hanswer : consumer number row () with
  | error e => simp only [takeRow, readCells_plain, hrow, hanswer]
  | ok _ => simp only [takeRow, readCells_plain, hrow, hanswer]

/-- Every row that is handed over has all columns. -/
theorem hasColumns_of_mem_handed (stop : Nat → Bool) (count : Nat)
    (rows : List (Except String (List Cell))) :
    ∀ e ∈ (readPlain columns stop consumer count rows).handed, HasColumns columns e.1 := by
  -- The induction is on the rows: each is handed over only after it was read as a whole.
  induction rows generalizing count with
  | nil => simp [readPlain]
  | cons row rows ih =>
    cases row with
    | error cause => simp [readPlain]
    | ok cells =>
      simp only [readPlain]
      split
      · simp
      · cases hrow : readRow columns cells with
        | error fault => simp [takeRow_plain_of_error hrow]
        | ok row =>
          rw [takeRow_plain_of_ok hrow]
          cases consumer (count + 1) row () with
          | error e => simp [hasColumns_of_readRow hrow]
          | ok _ => simpa [hasColumns_of_readRow hrow] using ih (count + 1)

end Plain

/-! ## Two readings side by side -/

/-- The two readings of the rows behind `count` others agree: the same rows are handed over, and the
results are the same unless the reading that keeps an offset ends at the request to stop. -/
structure Agrees (keys : List String) (offset : SnapshotMark) (stop : Nat → Bool) (count : Nat)
    (rows : List (Except String (List Cell))) (marked : RowReading SnapshotMark)
    (plain : RowReading Unit) : Prop where
  handed : marked.handed = plain.handed.map fun e => (e.1, offset.noteRow keys e.1)
  going : ¬ marked.EndsAtStop stop →
    plain.result = marked.result ∧ plain.advances = marked.advances ∧ ¬ plain.DropsRow rows
  stopped : marked.EndsAtStop stop →
    marked.result = .ok (count + marked.handed.length) ∧
      marked.advances = marked.handed.length ∧
      plain.result = afterStop rows[marked.handed.length]? (count + marked.handed.length) ∧
      plain.advances = marked.handed.length + 1

namespace Agrees

variable {offset : SnapshotMark} {stop : Nat → Bool} {count : Nat} {cells : List Cell} {row : Row}
  {rows : List (Except String (List Cell))} {marked : RowReading SnapshotMark}
  {plain : RowReading Unit}

/-- Readings that fail alike agree. -/
theorem of_error {e : Error}
    (handed : marked.handed = plain.handed.map fun e => (e.1, offset.noteRow keys e.1))
    (hmarked : marked.result = .error e) (hplain : plain.result = .error e)
    (hadvances : plain.advances = marked.advances) :
    Agrees keys offset stop count rows marked plain where
  handed := handed
  -- With a failure both loops went on alike, and neither was stopped.
  going := by
    intro _
    refine ⟨hplain.trans hmarked.symm, hadvances, ?_⟩
    rintro ⟨⟨n, hok⟩, -⟩
    rw [hplain] at hok
    cases hok
  stopped := by
    intro hstopped
    exact absurd hstopped (RowReading.not_endsAtStop_of_error hmarked)

/-- One reading is told to stop before it goes on, the other one behind the next advance. -/
theorem at_stop (hstop : stop count = true) (hmarked : marked = .ended (.ok count) offset)
    (hhanded : plain.handed = []) (hresult : plain.result = afterStop rows.head? count)
    (hadvances : plain.advances = 1) : Agrees keys offset stop count rows marked plain where
  handed := by rw [hmarked, hhanded]; rfl
  -- At the stop the loop that marks ends at once, and the other one looks at the next row first.
  going := by
    intro hgoing
    exact absurd ⟨count, by rw [hmarked]; rfl, hstop⟩ hgoing
  stopped := by
    intro _
    subst hmarked
    refine ⟨rfl, rfl, ?_, hadvances⟩
    rw [hresult, List.head?_eq_getElem?]
    rfl

/-- Both come to the end of the rows. -/
theorem at_end (hgoing : stop count = false) :
    Agrees keys offset stop count [] (RowReading.ended (.ok count) offset).behindAdvance
      (RowReading.ended (.ok count) ()).behindAdvance where
  handed := rfl
  going := by
    intro _
    refine ⟨rfl, rfl, ?_⟩
    -- There is no row that could be dropped.
    rintro ⟨-, -, cells, hfetched⟩
    cases hfetched
  stopped := by
    rintro ⟨n, hok, hstop⟩
    cases hok
    rw [hgoing] at hstop
    cases hstop

/-- A row that both accept goes in front of readings that agree. -/
theorem behindRow (hrow : HasColumns columns row)
    (hlater : ∀ e ∈ plain.handed, HasColumns columns e.1)
    (h : Agrees keys (offset.noteRow keys row) stop (count + 1) rows marked plain) :
    Agrees keys offset stop count (.ok cells :: rows)
      (marked.behindRow row (offset.noteRow keys row)).behindAdvance
      (plain.behindRow row ()).behindAdvance where
  handed := by
    have hsame : plain.handed.map (fun e => (e.1, (offset.noteRow keys row).noteRow keys e.1)) =
        plain.handed.map fun e => (e.1, offset.noteRow keys e.1) := by
      apply List.map_congr_left
      intro e he
      rw [SnapshotMark.noteRow_noteRow hrow (hlater e he)]
    simp [h.handed, hsame]
  going := by
    intro hgoing
    obtain ⟨hresult, hadvances, hdrops⟩ := h.going hgoing
    refine ⟨hresult, ?_, ?_⟩
    · simp [hadvances]
    · -- One row and one advance more on both sides, so the same row would be dropped.
      rintro ⟨hok, hcount, hfetched⟩
      apply hdrops
      exact ⟨hok, by simpa using hcount, by simpa using hfetched⟩
  stopped := by
    intro hstopped
    obtain ⟨hmarked, hadvances, hplain, hadvances'⟩ := h.stopped hstopped
    have hcount : count + 1 + marked.handed.length = count + (marked.handed.length + 1) := by omega
    rw [hcount] at hmarked hplain
    exact ⟨hmarked, by simp [hadvances], hplain, by simp [hadvances']⟩

end Agrees

/-- **Side by side**: both readings of the same rows agree, however many came before. -/
theorem agrees_read (columns keys : List String) (stop : Nat → Bool)
    (consumer : Nat → Row → Result Unit) (count : Nat) (offset : SnapshotMark)
    (rows : List (Except String (List Cell))) :
    Agrees keys offset stop count rows
      (readMarked columns keys stop (fun number row _ => consumer number row) count offset rows)
      (readPlain columns stop (fun number row _ => consumer number row) count rows) := by
  induction rows generalizing count offset with
  | nil =>
    simp only [readMarked, readPlain]
    split
    next hstop => exact Agrees.at_stop hstop rfl rfl rfl rfl
    next hgoing => exact Agrees.at_end (Bool.not_eq_true _ ▸ hgoing)
  | cons row rows ih =>
    cases row with
    | error cause =>
      simp only [readMarked, readPlain]
      split
      next hstop => exact Agrees.at_stop hstop rfl rfl rfl rfl
      next => exact Agrees.of_error rfl rfl rfl rfl
    | ok cells =>
      simp only [readMarked, readPlain]
      split
      next hstop => exact Agrees.at_stop hstop rfl rfl rfl rfl
      next =>
        cases hrow : readRow columns cells with
        | error fault =>
          rw [takeRow_of_error hrow, takeRow_plain_of_error hrow]
          exact Agrees.of_error rfl rfl rfl rfl
        | ok row =>
          rw [takeRow_of_ok hrow, takeRow_plain_of_ok hrow]
          cases consumer (count + 1) row with
          | error e => exact Agrees.of_error rfl rfl rfl rfl
          | ok _ =>
            -- The offset is that of this row from here on.
            apply Agrees.behindRow (hasColumns_of_readRow hrow)
            · exact hasColumns_of_mem_handed stop (count + 1) rows
            · exact ih (count + 1) (offset.noteRow keys row)

/-! ## The readings of a cursor -/

/-- **Agreement**: whoever takes rows without regard to the offset is handed the same rows either
way, each with the offset from the start that has the key of this very row. The request to stop may
depend in any way on the number of rows that were handed over; most often it is there from some
number on, or never. Unless the reading that keeps an offset ends at this request, both tell the
same after the same number of advances, and the other one does not drop a row. If it does, it was
advanced for every row that it handed over; the other one was advanced once more, and tells the same
unless this advance failed. -/
theorem readings_agree (c : RowStream) (offset : SnapshotMark) (keys : List String)
    (stop : Nat → Bool) (consumer : Nat → Row → Result Unit) :
    let marked := c.readFrom offset keys stop fun number row _ => consumer number row
    let plain := c.readAll stop fun number row _ => consumer number row
    marked.handed = plain.handed.map (fun e => (e.1, offset.noteRow keys e.1)) ∧
      (¬ marked.EndsAtStop stop →
        plain.result = marked.result ∧ plain.advances = marked.advances ∧
          ¬ plain.DropsRow c.rows) ∧
      (marked.EndsAtStop stop →
        marked.result = .ok marked.handed.length ∧ marked.advances = marked.handed.length ∧
          plain.advances = marked.handed.length + 1 ∧
          plain.result = afterStop c.rows[marked.handed.length]? marked.handed.length) := by
  intro marked plain
  -- The first row has the number zero, so both loops start at the same count.
  have hagrees := agrees_read c.columns keys stop consumer 0 offset c.rows
  refine ⟨hagrees.handed, hagrees.going, ?_⟩
  intro hstopped
  have hstop := hagrees.stopped hstopped
  rw [Nat.zero_add] at hstop
  obtain ⟨hmarked, hadvances, hplain, hadvances'⟩ := hstop
  exact ⟨hmarked, hadvances, hadvances', hplain⟩

/-- Two orders, read until one was taken: the second cannot be fetched, which only the reading
without an offset finds out. -/
theorem stoppedOrder_read_both_ways :
    let stop := fun count => decide (1 ≤ count)
    let marked := lostOrder.readFrom (.initial "orders") orderKey stop fun _ _ _ => .ok ()
    let plain := lostOrder.readAll stop fun _ _ _ => .ok ()
    marked.EndsAtStop stop ∧ marked.result = .ok 1 ∧ marked.advances = 1 ∧
      plain.result = .error (fetchFault 2 "connection lost") ∧ plain.advances = 2 := by
  intro stop marked plain
  have hstopped : marked.EndsAtStop stop := ⟨1, rfl, rfl⟩
  obtain ⟨hmarked, hadvances, hadvances', hplain⟩ :=
    (readings_agree lostOrder (.initial "orders") orderKey stop fun _ _ => .ok ()).2.2 hstopped
  exact ⟨hstopped, hmarked, hadvances, hplain, hadvances'⟩

end ChangeFeed

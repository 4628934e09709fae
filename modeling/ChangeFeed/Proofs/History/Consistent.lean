import ChangeFeed.Proofs.History.Operations

/-!
# The schema history: Consistency

A history knows by two counters whether it is stored. The invariant says what they are worth: a
history that is clean is exactly the snapshot that a reader finds, and a put takes along the tables
of its generation. Statements only ever come in addition, so what was recorded is in every later
snapshot.

## Main results

* `Consistent.record`, `Consistent.absorb`, `Consistent.beginWrite`, `Consistent.endWrite`: the
  invariant survives every operation.
* `Consistent.isStored`: a clean history with tables is the snapshot in its store.
-/

namespace ChangeFeed

namespace SchemaHistory

variable {c : SchemaHistory} {found : Result (Option StatementLists)}

/-! ## A history and a snapshot -/

/-- The counters of a history, the put under way, and the snapshot that a reader finds fit
together. -/
structure Consistent (c : SchemaHistory) (found : Result (Option StatementLists)) : Prop where
  unchanged : c.generation = 0 → c.tables = .empty
  saved_le : c.saved ≤ c.generation
  stored : c.saved = c.generation → c.generation = 0 ∨ found = .ok (some c.tables)
  capture_pos : ∀ capture, c.writing = some capture → 0 < capture.generation
  capture_le : ∀ capture, c.writing = some capture → capture.generation ≤ c.generation
  capture_tables : ∀ capture, c.writing = some capture →
    capture.generation = c.generation → capture.tables = c.tables

namespace Consistent

/-- A history that nobody used fits every store. -/
theorem empty (found : Result (Option StatementLists)) : Consistent .empty found where
  unchanged _ := rfl
  saved_le := Nat.le_refl 0
  stored _ := .inl rfl
  capture_pos := nofun
  capture_le := nofun
  capture_tables := nofun

/-- A change leads to a generation that neither is stored nor was taken along. -/
theorem grow (h : c.Consistent found) (tables : StatementLists) :
    Consistent { c with tables, generation := c.generation + 1 } found where
  unchanged := nofun
  saved_le := Nat.le_succ_of_le h.saved_le
  -- The new generation was saved by nobody.
  stored hsaved := by
    have hle := h.saved_le
    simp only at hsaved
    omega
  capture_pos := h.capture_pos
  capture_le capture hc := Nat.le_succ_of_le (h.capture_le capture hc)
  capture_tables capture hc hsame := by
    have hle := h.capture_le capture hc
    simp only at hsame
    omega

/-- A statement that is known changes nothing; another one makes a change. -/
theorem record (h : c.Consistent found) (table statement : String) :
    (c.record table statement).2.Consistent found := by
  by_cases hknown : statement ∈ c.statements table
  · rw [record_of_mem hknown]
    exact h
  · rw [record_of_not_mem hknown]
    exact h.grow _

/-- A merge declares a history clean only if it is equal to what was found. -/
theorem merge {stored : StatementLists} (h : c.Consistent (.ok (some stored))) :
    (c.merge stored).2.Consistent (.ok (some stored)) := by
  have hgrown := h.grow (c.tables.mergeTables stored.entries).1
  -- The history has become what was found, or there is more in it than that.
  by_cases hequal : (c.tables.mergeTables stored.entries).1 = stored
  · have hmerge : (c.merge stored).2 =
        { c with
          tables := (c.tables.mergeTables stored.entries).1
          generation := c.generation + 1
          saved := c.generation + 1 } := by
      simp only [SchemaHistory.merge, if_pos hequal]
    rw [hmerge]
    exact { hgrown with
      saved_le := Nat.le_refl _
      stored := fun _ => .inr (by rw [hequal]) }
  · have hmerge : (c.merge stored).2 =
        { c with
          tables := (c.tables.mergeTables stored.entries).1
          generation := c.generation + 1 } := by
      simp only [SchemaHistory.merge, if_neg hequal]
    rw [hmerge]
    exact hgrown

/-- Where nothing is found, nothing is merged. -/
theorem absorb {stored : Option StatementLists} (h : c.Consistent (.ok stored)) :
    (c.absorb stored).2.Consistent (.ok stored) := by
  cases stored with
  | none => exact h
  | some stored => exact h.merge

/-- What a put takes along when it begins are the tables as they are. -/
theorem begin (h : c.Consistent found) (hdirty : c.saved ≠ c.generation) :
    Consistent { c with writing := some ⟨c.generation, c.tables⟩ } found :=
  -- What is captured is what there is now, and something was recorded since the last save.
  { h with
    capture_pos := by
      rintro capture ⟨⟩
      have hle := h.saved_le
      show 0 < c.generation
      omega
    capture_le := by
      rintro capture ⟨⟩
      exact Nat.le_refl _
    capture_tables := by
      rintro capture ⟨⟩ -
      rfl }

/-- Only a dirty history begins to write; the others stay as they are. -/
theorem beginWrite (h : c.Consistent found) : c.beginWrite.2.Consistent found := by
  obtain ⟨-, hbegin⟩ | ⟨-, -, hbegin⟩ | ⟨-, hdirty, hbegin⟩ := c.beginWrite_cases
  · rw [hbegin]
    exact h
  · rw [hbegin]
    exact h
  · rw [hbegin]
    exact h.begin hdirty

/-- A put that succeeds saves the generation that it took along, and nothing that came after. -/
theorem endWrite_true (h : c.Consistent found) {capture : HistoryCapture}
    (hwriting : c.writing = some capture) :
    (c.endWrite true).Consistent (.ok (some capture.tables)) := by
  rw [endWrite_of_writing hwriting]
  exact
    { unchanged := h.unchanged
      saved_le := h.capture_le capture hwriting
      stored := fun hsame => by
        -- If the history is clean now, nothing has changed since the put began.
        have htables := h.capture_tables capture hwriting hsame
        exact .inr (by rw [htables])
      capture_pos := nofun
      capture_le := nofun
      capture_tables := nofun }

/-- A write that fails forgets what it took along. -/
theorem endWrite_false (h : c.Consistent found) {capture : HistoryCapture}
    (hwriting : c.writing = some capture) : (c.endWrite false).Consistent found := by
  rw [endWrite_of_writing hwriting]
  exact { h with capture_pos := nofun, capture_le := nofun, capture_tables := nofun }

/-- **Clean is stored**: a clean history with tables is the snapshot that a reader finds. -/
theorem isStored (h : c.Consistent found) (hclean : c.isDirty = false)
    (htables : c.tables ≠ .empty) : found = .ok (some c.tables) :=
  (h.stored (isDirty_eq_false_iff.1 hclean)).resolve_left fun hzero =>
    htables (h.unchanged hzero)

end Consistent

end SchemaHistory

/-! ## Statements stay -/

namespace StatementLists

/-- What was known before a merge is known after it. -/
theorem statements_subset_mergeTables (s : StatementLists)
    (stored : List (String × List String)) (table : String) :
    s.statements table ⊆ (s.mergeTables stored).1.statements table := by
  -- The induction is on the stored tables, each of which is only added to.
  induction stored generalizing s with
  | nil => exact fun _ hx => hx
  | cons e stored ih =>
    intro x hx
    rw [mergeTables, appendNew_eq_additions]
    refine ih (s.insert e.1 (s.statements e.1 ++ additions (s.statements e.1) e.2)) ?_
    rw [statements_insert]
    split
    next heq => exact List.mem_append_left _ (heq ▸ hx)
    next => exact hx

end StatementLists

namespace SchemaHistory

/-- What is loaded adds to what was known. -/
theorem statements_subset_absorb (c : SchemaHistory) (stored : Option StatementLists)
    (table : String) : c.statements table ⊆ (c.absorb stored).2.statements table := by
  cases stored with
  | none => exact fun _ hx => hx
  | some stored => exact StatementLists.statements_subset_mergeTables c.tables stored.entries table

theorem writing_absorb (c : SchemaHistory) (stored : Option StatementLists) :
    (c.absorb stored).2.writing = c.writing := by
  cases stored <;> rfl

end SchemaHistory

end ChangeFeed

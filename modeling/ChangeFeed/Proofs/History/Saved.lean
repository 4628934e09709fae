import ChangeFeed.Proofs.History.Consistent

/-!
# The schema history: What is saved

A history that is clean is in its store. Statements are recorded, snapshots are loaded, and writes
begin and end in any order; the store may refuse whatever it likes. The invariant ties three things
to each other: the two counters of the history, what the write under way took along, and what a
reader finds in the store.

## Main results

* `KeptHistory.Consistent.step`: the invariant survives every step.
* `KeptHistory.clean_is_stored`: a clean history is in the store, and no write saves what came after
  it began.
-/

namespace ChangeFeed

/-! ## The snapshot in a store -/

/-- The snapshot that a reader finds who is not refused. -/
def GuardedStore.snapshot (s : GuardedStore) : Result (Option StatementLists) := do
  match ← Store.asText SchemaHistory.storeKey (s.entries.get? SchemaHistory.storeKey) with
  | none => return none
  | some text => return some (← StatementLists.unpack text)

/-! ## A history and its store -/

/-- A history and the store that nobody else writes. -/
structure KeptHistory where
  cache : SchemaHistory
  store : GuardedStore

/-- What can happen to a history. -/
inductive HistoryAction where
  | record (table statement : String)
  /-- A stored snapshot is read and merged. -/
  | load
  | beginWrite
  /-- The write under way reaches the store and ends. -/
  | endWrite
  deriving DecidableEq, Repr

namespace KeptHistory

/-- A new history over a store that holds anything. -/
def ofStore (store : GuardedStore) : KeptHistory := ⟨.empty, store⟩

/-- One step. A load that fails, and a write that was not begun, change nothing. -/
def step (k : KeptHistory) : HistoryAction → KeptHistory
  | .record table statement => { k with cache := (k.cache.record table statement).2 }
  | .load =>
    match k.cache.load.run k.store with
    | (.ok (_, cache), store) => ⟨cache, store⟩
    | (.error _, store) => { k with store }
  | .beginWrite => { k with cache := k.cache.beginWrite.2 }
  | .endWrite =>
    match k.cache.writing with
    | some capture =>
      let (result, store) := (SchemaHistory.put capture).run k.store
      ⟨k.cache.endWrite result.isOk, store⟩
    | none => k

/-- Steps one after the other. -/
def run (k : KeptHistory) (actions : List HistoryAction) : KeptHistory := actions.foldl step k

/-- A history fits what a reader finds in its store. -/
def Consistent (k : KeptHistory) : Prop := k.cache.Consistent k.store.snapshot

namespace Consistent

variable {k : KeptHistory}

theorem ofStore (store : GuardedStore) : (KeptHistory.ofStore store).Consistent :=
  SchemaHistory.Consistent.empty _

/-! ### Every action by itself -/

theorem record (h : k.Consistent) (table statement : String) :
    (k.step (.record table statement)).Consistent :=
  SchemaHistory.Consistent.record h table statement

/-- A load that fails changes nothing, and one that succeeds merges exactly what the store holds. -/
theorem load (h : k.Consistent) : (k.step .load).Consistent := by
  have hcache : k.cache.Consistent k.store.snapshot := h
  -- Reading the store does not change what is stored in it.
  have hkept : (SchemaHistory.fetch.run k.store).2.snapshot = k.store.snapshot :=
    SchemaHistory.snapshotIn_fetch k.store
  simp only [step, SchemaHistory.load_run_eq]
  cases hfound : (SchemaHistory.fetch.run k.store : Result (Option StatementLists) × _).1 with
  | error e =>
    show k.cache.Consistent (SchemaHistory.fetch.run k.store).2.snapshot
    rw [hkept]
    exact hcache
  | ok found =>
    have hsnapshot : k.store.snapshot = .ok found := SchemaHistory.fetch_of_ok hfound
    show (k.cache.absorb found).2.Consistent (SchemaHistory.fetch.run k.store).2.snapshot
    rw [hkept, hsnapshot]
    rw [hsnapshot] at hcache
    exact hcache.absorb

theorem beginWrite (h : k.Consistent) : (k.step .beginWrite).Consistent :=
  SchemaHistory.Consistent.beginWrite h

/-- A write saves the generation that it took along, and nothing that came after. -/
theorem endWrite (h : k.Consistent) : (k.step .endWrite).Consistent := by
  have hcache : k.cache.Consistent k.store.snapshot := h
  simp only [step]
  split
  next capture hwriting =>
    have hkept := SchemaHistory.snapshotIn_put k.store capture
    obtain ⟨result, store, hput⟩ : ∃ (result : Result Unit) (store : GuardedStore),
        (SchemaHistory.put capture).run k.store = (result, store) := ⟨_, _, rfl⟩
    rw [hput] at hkept
    simp only [hput]
    cases result with
    | error e =>
      -- The store keeps what it had.
      show (k.cache.endWrite false).Consistent (SchemaHistory.snapshotIn store)
      rw [hkept]
      exact hcache.endWrite_false hwriting
    | ok _ =>
      -- The store holds what was taken along.
      show (k.cache.endWrite true).Consistent (SchemaHistory.snapshotIn store)
      rw [hkept]
      exact hcache.endWrite_true hwriting
  next => exact h

/-! ### Runs -/

/-- **Preservation**: the invariant survives every action. -/
theorem step (h : k.Consistent) (action : HistoryAction) : (k.step action).Consistent := by
  cases action with
  | record table statement => exact h.record table statement
  | load => exact h.load
  | beginWrite => exact h.beginWrite
  | endWrite => exact h.endWrite

/-- The invariant holds after every run, if it holds before. -/
theorem run (h : k.Consistent) (actions : List HistoryAction) : (k.run actions).Consistent := by
  induction actions generalizing k with
  | nil => exact h
  | cons action actions ih => exact ih (h.step action)

end Consistent

/-! ## Clean histories -/

/-- A write that succeeds saves the generation that it took along, so a later one stays dirty. -/
theorem isDirty_endWrite_true {c : SchemaHistory} {capture : HistoryCapture}
    (hwriting : c.writing = some capture) (hne : capture.generation ≠ c.generation) :
    (c.endWrite true).isDirty = true := by
  have hend : c.endWrite true = { c with writing := none, saved := capture.generation } := by
    simp only [SchemaHistory.endWrite, hwriting, if_true]
  rw [hend]
  exact decide_eq_true (Ne.symm hne)

theorem isDirty_endWrite_false (c : SchemaHistory) : (c.endWrite false).isDirty = c.isDirty := by
  unfold SchemaHistory.endWrite
  split <;> rfl

/-- **Clean is saved**: whatever happened before, a history that is clean was never changed, or a
reader finds exactly its tables in the store. And a write under way saves nothing that came after it
began: if the history has changed since, it is dirty when the write succeeds, and as dirty as before
when it fails. -/
theorem clean_is_stored (store : GuardedStore) (actions : List HistoryAction) :
    let k := (ofStore store).run actions
    (k.cache.isDirty = false →
      k.cache.generation = 0 ∧ k.cache.tables = .empty ∨
        k.store.snapshot = .ok (some k.cache.tables)) ∧
    ∀ capture, k.cache.writing = some capture →
      (capture.tables ≠ k.cache.tables → capture.generation ≠ k.cache.generation) ∧
      (capture.generation ≠ k.cache.generation →
        (k.cache.endWrite true).isDirty = true ∧
          (k.cache.endWrite false).isDirty = k.cache.isDirty) := by
  intro k
  have h : k.cache.Consistent k.store.snapshot := (Consistent.ofStore store).run actions
  refine ⟨fun hclean => ?_, fun capture hwriting => ⟨fun hne hsame => ?_, fun hne => ?_⟩⟩
  · -- What is clean has the saved generation, which is that of an unchanged history or of what is
    -- stored.
    rcases h.stored (SchemaHistory.isDirty_eq_false_iff.1 hclean) with hzero | hstored
    · exact .inl ⟨hzero, h.unchanged hzero⟩
    · exact .inr hstored
  · exact hne (h.capture_tables capture hwriting hsame)
  · exact ⟨isDirty_endWrite_true hwriting hne, isDirty_endWrite_false k.cache⟩

/-- A statement is recorded while the write of another one is under way. -/
def overtaken : KeptHistory :=
  (ofStore (.ofEntries .empty)).run
    [.record "t" "CREATE TABLE t (a INT)", .beginWrite, .record "t" "DROP TABLE t"]

/-- The first write leaves that history dirty, and the second one leaves it clean and saved. -/
theorem overtaken_is_saved_later :
    (overtaken.cache.endWrite true).isDirty = true ∧
      (overtaken.run [.endWrite, .beginWrite, .endWrite]).cache.isDirty = false ∧
      (overtaken.run [.endWrite, .beginWrite, .endWrite]).store.snapshot =
        .ok (some (.single "t" ["CREATE TABLE t (a INT)", "DROP TABLE t"])) := by
  have hclean : (overtaken.run [.endWrite, .beginWrite, .endWrite]).cache.isDirty = false := by
    decide +kernel
  have htables : (overtaken.run [.endWrite, .beginWrite, .endWrite]).cache.tables =
      .single "t" ["CREATE TABLE t (a INT)", "DROP TABLE t"] := by
    decide +kernel
  refine ⟨?_, hclean, ?_⟩
  · -- A record came while the put was under way, so the put that succeeds does not make the history
    -- clean.
    have hwriting : overtaken.cache.writing =
        some ⟨1, .single "t" ["CREATE TABLE t (a INT)"]⟩ := by
      decide +kernel
    exact (((clean_is_stored _ _).2 _ hwriting).2 (by decide +kernel)).1
  · rw [← htables]
    rcases (clean_is_stored (.ofEntries .empty)
      [.record "t" "CREATE TABLE t (a INT)", .beginWrite, .record "t" "DROP TABLE t", .endWrite,
        .beginWrite, .endWrite]).1 hclean with hunchanged | hstored
    · exact absurd hunchanged.1 (by decide +kernel)
    · exact hstored

end KeptHistory

end ChangeFeed

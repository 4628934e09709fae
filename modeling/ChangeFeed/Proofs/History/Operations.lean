import ChangeFeed.History.Persistence
import ChangeFeed.Proofs.History.Blob
import ChangeFeed.Proofs.History.Recording
import ChangeFeed.Proofs.Store

/-!
# The schema history: Operations

What loads and writes do, each as one equation. A load asks its store and goes on with the answer;
an attempt to write is decided first and goes on when its put has ended. Over a store that keeps
what is put, a load finds the snapshot of the last put that succeeded.

## Main results

* `load_run_eq`, `persist_run_eq`: the operations over any store.
* `snapshotIn_put`: the snapshot in a store after a put.
-/

namespace ChangeFeed.SchemaHistory

variable {c : SchemaHistory} {capture : HistoryCapture}

/-! ## The cache -/

theorem isDirty_eq_false_iff : c.isDirty = false ↔ c.saved = c.generation := by
  rw [isDirty, decide_eq_false_iff_not, ne_eq, Decidable.not_not, eq_comm]

/-- An attempt finds a put under way, nothing to write, or begins a put. -/
theorem beginWrite_cases (c : SchemaHistory) :
    (c.writing ≠ none ∧ c.beginWrite = (.inFlight, c)) ∨
    (c.writing = none ∧ c.saved = c.generation ∧ c.beginWrite = (.clean, c)) ∨
    (c.writing = none ∧ c.saved ≠ c.generation ∧
      c.beginWrite = (.started ⟨c.generation, c.tables⟩,
        { c with writing := some ⟨c.generation, c.tables⟩ })) := by
  -- A write that is under way comes first, then whether there is anything to write.
  unfold beginWrite
  split
  next hwriting => exact .inl ⟨Option.isSome_iff_ne_none.1 hwriting, rfl⟩
  next hnone =>
    have hnone : c.writing = none := by simpa using hnone
    split
    next hdirty =>
      refine .inr (.inr ⟨hnone, ?_, rfl⟩)
      rw [isDirty, decide_eq_true_iff] at hdirty
      exact hdirty.symm
    next hclean =>
      exact .inr (.inl ⟨hnone, isDirty_eq_false_iff.1 (Bool.eq_false_iff.2 hclean), rfl⟩)

/-- A put that succeeded saves the generation that it took along. -/
theorem endWrite_of_writing (hwriting : c.writing = some capture) (succeeded : Bool) :
    c.endWrite succeeded =
      { c with
        writing := none
        saved := if succeeded then capture.generation else c.saved } := by
  rw [endWrite, hwriting]

theorem tables_beginWrite (c : SchemaHistory) : c.beginWrite.2.tables = c.tables := by
  obtain ⟨-, hbegin⟩ | ⟨-, -, hbegin⟩ | ⟨-, -, hbegin⟩ := c.beginWrite_cases <;> rw [hbegin]

/-- The end of a write does not touch the tables. -/
theorem tables_endWrite (c : SchemaHistory) (succeeded : Bool) :
    (c.endWrite succeeded).tables = c.tables := by
  unfold endWrite
  split <;> rfl

/-- What a load makes of the answer of its store. -/
def absorb (c : SchemaHistory) : Option StatementLists → Nat × SchemaHistory
  | none => (0, c)
  | some stored => c.merge stored

/-! ## Over any store -/

section

variable {σ : Type} [Store σ]

/-- A load asks its store first and goes on with the answer. -/
theorem load_run_eq (c : SchemaHistory) (s : σ) :
    c.load.run s = ((fetch.run s).1.map c.absorb, (fetch.run s).2) := by
  -- What the store answers is fixed first; the rest of the load does not look at the store again.
  obtain ⟨found, s', hfetch⟩ :
      ∃ (found : Result (Option StatementLists)) (s' : σ), fetch.run s = (found, s') :=
    ⟨_, _, rfl⟩
  rw [hfetch, load]
  cases found with
  | error e => exact Access.run_bind_of_error hfetch _
  | ok found =>
    rw [Access.run_bind_of_ok hfetch]
    cases found <;> rfl

/-- An attempt is decided first, and goes on when its put has ended. -/
theorem persist_run_eq [Gzip.Packer] (c : SchemaHistory) (s : σ) :
    c.persist.run s =
      match c.beginWrite with
      | (.inFlight, c) => ((.ok .inFlight, c), s)
      | (.clean, c) => ((.ok .clean, c), s)
      | (.started capture, c) =>
        let answer : Result Unit × σ := (put capture).run s
        ((answer.1.map fun _ => .persisted, c.endWrite answer.1.isOk), answer.2) := by
  unfold persist
  cases c.beginWrite with
  | mk outcome c =>
    cases outcome with
    | inFlight => rfl
    | clean => rfl
    | started capture =>
      -- The history is decided before the put, and only told of its answer afterwards.
      obtain ⟨answer, s', hput⟩ :
          ∃ (answer : Result Unit) (s' : σ), (put capture).run s = (answer, s') := ⟨_, _, rfl⟩
      simp only [StateT.run, bind, StateT.bind, hput]
      cases answer <;> rfl

end

/-! ## Over a store that keeps what is put -/

/-- The snapshot that a value stands for. -/
def snapshotOf (found : Option Json) : Result (Option StatementLists) := do
  match ← Store.asText storeKey found with
  | none => return none
  | some text => return some (← StatementLists.unpack text)

/-- A reader makes of a stored value what it was made from. -/
theorem snapshotOf_stored [Gzip.Packer] [Gzip.LawfulPacker] (s : StatementLists) :
    snapshotOf (some (stored s)) = .ok (some s) := by
  simp only [snapshotOf, stored, Store.asText, bind, Except.bind, StatementLists.unpack_pack]
  rfl

section

variable {σ : Type} [Store σ]

/-- A fetch reads one value and makes a snapshot of it. -/
theorem fetch_run_eq (s : σ) :
    fetch.run s =
      (((Store.get storeKey : Access σ (Option Json)).run s).1.bind snapshotOf,
        ((Store.get storeKey : Access σ (Option Json)).run s).2) := by
  obtain ⟨answer, s', hget⟩ : ∃ (answer : Result (Option Json)) (s' : σ),
      (Store.get storeKey : Access σ (Option Json)).run s = (answer, s') := ⟨_, _, rfl⟩
  rw [hget, fetch]
  cases answer with
  | error e => exact Access.run_bind_of_error (Store.getText_run_of_error hget) _
  | ok found =>
    rw [Access.run_bind, Store.getText_run hget]
    simp only [Except.bind, snapshotOf, bind]
    cases Store.asText storeKey found with
    | error e => rfl
    | ok text =>
      cases text with
      | none => rfl
      | some text =>
        -- From here on the store is not asked any more.
        simp only
        cases hunpack : StatementLists.unpack text with
        | error e => exact Access.run_bind_of_error (Access.run_ofExcept _ _) _
        | ok stored => exact Access.run_bind_of_ok (Access.run_ofExcept _ _) _

variable [LawfulStore σ]

/-- The snapshot in a store. -/
def snapshotIn (s : σ) : Result (Option StatementLists) := snapshotOf (LawfulStore.value s storeKey)

/-- A fetch leaves the snapshot as it is. -/
theorem snapshotIn_fetch (s : σ) : snapshotIn (fetch.run s).2 = snapshotIn s := by
  rw [fetch_run_eq, snapshotIn, LawfulStore.value_get, snapshotIn]

/-- A fetch that does not fail finds the snapshot. -/
theorem fetch_of_ok {s : σ} {found : Option StatementLists} (h : (fetch.run s).1 = .ok found) :
    snapshotIn s = .ok found := by
  rw [fetch_run_eq] at h
  cases hanswer : ((Store.get storeKey : Access σ (Option Json)).run s).1 with
  | error e =>
    rw [hanswer] at h
    cases h
  | ok value =>
    rw [hanswer] at h
    rw [snapshotIn, ← LawfulStore.get_eq hanswer]
    exact h

/-- A fetch that is not refused finds the snapshot. -/
theorem fetch_of_snapshotIn {s : σ} {found : Option StatementLists} (h : snapshotIn s = .ok found)
    (hread : ((Store.get storeKey : Access σ (Option Json)).run s).1.isOk = true) :
    (fetch.run s).1 = .ok found := by
  rw [fetch_run_eq]
  cases hanswer : ((Store.get storeKey : Access σ (Option Json)).run s).1 with
  | error e =>
    rw [hanswer] at hread
    cases hread
  | ok value =>
    rw [LawfulStore.get_eq hanswer]
    exact h

/-- A put that succeeds leaves what it took along. -/
theorem snapshotIn_put [Gzip.Packer] [Gzip.LawfulPacker] (s : σ) (capture : HistoryCapture) :
    snapshotIn ((put capture).run s).2 =
      if ((put capture).run s).1.isOk then .ok (some capture.tables) else snapshotIn s := by
  have hvalue := LawfulStore.value_put s storeKey (stored capture.tables) storeKey
  unfold snapshotIn put
  -- The value under the key of the history is the new one exactly if the put succeeded.
  rw [hvalue]
  split
  next hok => rw [if_pos hok.2, snapshotOf_stored]
  next hfailed =>
    rw [if_neg]
    exact fun hok => hfailed ⟨rfl, hok⟩

/-! ### Operations about other things -/

variable {α β : Type}

/-- An operation that leaves the snapshot in its store as it is. -/
def SparesSnapshot (x : Access σ α) : Prop := ∀ s, snapshotIn (x.run s).2 = snapshotIn s

namespace SparesSnapshot

theorem pure (a : α) : SparesSnapshot (Pure.pure a : Access σ α) := fun _ => rfl

theorem ofExcept (r : Result α) : SparesSnapshot (MonadExcept.ofExcept r : Access σ α) := by
  intro s
  rw [Access.run_ofExcept]

/-- Two accesses in a row leave the snapshot alone if both do. -/
theorem bind {x : Access σ α} {f : α → Access σ β} (hx : SparesSnapshot x)
    (hf : ∀ a, SparesSnapshot (f a)) : SparesSnapshot (x >>= f) := by
  -- Whether the first access fails or not, it leaves the snapshot alone.
  intro s
  obtain ⟨answer, s', hrun⟩ : ∃ (answer : Result α) (s' : σ), x.run s = (answer, s') :=
    ⟨_, _, rfl⟩
  have hsame := hx s
  rw [hrun] at hsame
  cases answer with
  | error e =>
    rw [Access.run_bind_of_error hrun]
    exact hsame
  | ok a =>
    rw [Access.run_bind_of_ok hrun]
    exact (hf a s').trans hsame

theorem getText (key : String) : SparesSnapshot (Store.getText key : Access σ (Option String)) := by
  refine bind (fun s => ?_) fun _ => ofExcept _
  rw [snapshotIn, LawfulStore.value_get, snapshotIn]

/-- A put under another key leaves the snapshot alone. -/
theorem put {key : String} (hkey : key ≠ storeKey) (v : Json) :
    SparesSnapshot (Store.put key v : Access σ Unit) := by
  intro s
  rw [snapshotIn, LawfulStore.value_put, if_neg fun h => hkey h.1.symm, snapshotIn]

end SparesSnapshot

end

end ChangeFeed.SchemaHistory

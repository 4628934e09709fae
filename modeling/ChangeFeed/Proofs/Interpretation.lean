import ChangeFeed.Interpreter
import ChangeFeed.Proofs.History.Recording
import Mathlib.Tactic.ByContra

/-!
# From records to events: Effects

What turning a record into events does to the history. Events never depend on the history, so the
history is an effect on the side; and the effect comes before the last check, the one of the
position.

## Main results

* `interpret_fst`: the events of a record are the same whatever the history is.
* `failure_leaves_trace_iff`: exactly when a record that fails leaves a trace in the history.
-/

namespace ChangeFeed

namespace Interpreter

variable {t : Interpreter}

/-! ## The history after a statement -/

/-- What is preserved whenever the statement is recorded for a table holds afterwards. -/
theorem recordStatement_induction {P : SchemaHistory → Prop} {h : SchemaHistory}
    {s : StatementRecord} (hrecord : ∀ k table, P k → P (k.record table s.ddl).2) (hh : P h)
    (changes : List Schema.TableChange) : P (recordStatement h s changes) := by
  induction changes generalizing h with
  | nil => exact hh
  | cons c changes ih => exact ih (hrecord h c.table hh)

/-- Recording a statement for tables that all know it changes nothing. -/
theorem recordStatement_of_known {h : SchemaHistory} {s : StatementRecord}
    {changes : List Schema.TableChange} (hknown : ∀ c ∈ changes, s.ddl ∈ h.statements c.table) :
    recordStatement h s changes = h := by
  induction changes with
  | nil => rfl
  | cons c changes ih =>
    -- The first table knows the statement, and so do the others afterwards.
    have hc : (h.record c.table s.ddl).2 = h := by
      rw [SchemaHistory.record_of_mem (hknown c List.mem_cons_self)]
    simp only [recordStatement, List.foldl_cons, hc]
    exact ih fun d hd => hknown d (List.mem_cons_of_mem c hd)

theorem statements_subset_recordStatement (h : SchemaHistory) (s : StatementRecord)
    (changes : List Schema.TableChange) (table : String) :
    h.statements table ⊆ (recordStatement h s changes).statements table :=
  recordStatement_induction (P := fun k => h.statements table ⊆ k.statements table)
    (fun k changed hsubset _ hx => k.statements_subset_record changed s.ddl table (hsubset hx))
    (fun _ hx => hx) changes

/-- Afterwards every changed table knows the statement. -/
theorem mem_statements_recordStatement (h : SchemaHistory) (s : StatementRecord)
    (changes : List Schema.TableChange) {c : Schema.TableChange} (hc : c ∈ changes) :
    s.ddl ∈ (recordStatement h s changes).statements c.table := by
  induction changes generalizing h with
  | nil => cases hc
  | cons d changes ih =>
    -- What is recorded for a table stays there while the others are dealt with.
    rcases List.mem_cons.1 hc with rfl | hc
    · exact statements_subset_recordStatement _ s changes _
        (SchemaHistory.mem_statements_record h c.table s.ddl)
    · exact ih _ hc

/-! ## Events do not depend on the history -/

theorem events_fst (t : Interpreter) (h k : SchemaHistory) (r : LogRecord) :
    (t.events h r).1 = (t.events k r).1 := by
  unfold events
  cases r.content with
  | row c => rfl
  | statement s => cases hchanges : t.changes s <;> simp only [hchanges]
  | nothing => rfl

/-- The events of a record, or why it has none. -/
def eventsOf (t : Interpreter) (r : LogRecord) : Result (List PlacedEvent) :=
  (t.interpret .empty r).1

/-- The events of a record are the same whatever the history is. -/
theorem interpret_fst (t : Interpreter) (h : SchemaHistory) (r : LogRecord) :
    (t.interpret h r).1 = t.eventsOf r := by
  simp only [eventsOf, interpret, events_fst t h .empty r]

/-- Whether records all make their events can be tried out. -/
theorem exists_eventsOf_of_all {records : List LogRecord}
    (h : (records.all fun r => (t.eventsOf r).isOk) = true) :
    ∀ r ∈ records, ∃ events, t.eventsOf r = .ok events := by
  intro r hr
  have hok := List.all_eq_true.1 h r hr
  cases hevents : t.eventsOf r with
  | ok events => exact ⟨events, rfl⟩
  | error f => simp [hevents, Except.isOk, Except.toBool] at hok

theorem interpret_snd (t : Interpreter) (h : SchemaHistory) (r : LogRecord) :
    (t.interpret h r).2 = (t.events h r).2 := rfl

/-- Only a statement that is not rejected changes the history. -/
theorem events_snd (t : Interpreter) (h : SchemaHistory) (r : LogRecord) :
    (t.events h r).2 = h ∨
      ∃ s changes, r.content = .statement s ∧ t.changes s = .ok changes ∧
        (t.events h r).2 = recordStatement h s changes := by
  -- Only a statement whose changes are told is recorded.
  unfold events
  cases hcontent : r.content with
  | row c => exact .inl rfl
  | statement s =>
    cases hchanges : t.changes s with
    | ok changes => exact .inr ⟨s, changes, rfl, hchanges, by simp only [hchanges]⟩
    | error e => exact .inl (by simp only [hchanges])
  | nothing => exact .inl rfl

theorem events_snd_of_statement {h : SchemaHistory} {r : LogRecord} {s : StatementRecord}
    {changes : List Schema.TableChange} (hs : r.content = .statement s)
    (hc : t.changes s = .ok changes) : (t.events h r).2 = recordStatement h s changes := by
  simp [events, hs, hc]

/-! ## Failures -/

/-- A statement fails, but is not rejected: it is its position that is invalid. -/
theorem position_of_interpret_error {h : SchemaHistory} {r : LogRecord} {e : Error}
    {s : StatementRecord} {changes : List Schema.TableChange}
    (hfail : (t.interpret h r).1 = .error e) (hs : r.content = .statement s)
    (hc : t.changes s = .ok changes) : t.position r = .error e := by
  -- The changes become events, so the failure can only come from placing them.
  have hfound : (t.events h r).1 = .ok (changes.map (changeEvent s)) := by
    simp [events, hs, hc]
  have hplaced : t.placed r (changes.map (changeEvent s)) = .error e := by
    simpa [interpret, hfound, bind, Except.bind] using hfail
  cases hmap : changes.map (changeEvent s) with
  | nil => simp [hmap, placed] at hplaced
  | cons event events =>
    rw [hmap, placed] at hplaced
    · cases hpos : t.position r with
      | error e' => simpa [hpos, bind, Except.bind] using hplaced
      | ok p => simp [hpos, bind, Except.bind, pure, Except.pure] at hplaced
    · simp

/-- A record leaves a trace only as a statement that some table does not know. -/
theorem tellsNews_of_not_looksSame {h : SchemaHistory} {r : LogRecord}
    (hlooks : ¬ h.LooksSame (t.interpret h r).2) :
    ∃ s changes, r.content = .statement s ∧ t.changes s = .ok changes ∧
      ∃ c ∈ changes, s.ddl ∉ h.statements c.table := by
  -- Unless the history was touched, it looks the same.
  rcases t.events_snd h r with hsame | ⟨s, changes, hs, hc, hrec⟩
  · exact absurd (by rw [interpret_snd, hsame]; exact .refl h) hlooks
  · refine ⟨s, changes, hs, hc, ?_⟩
    by_contra! hnone
    rw [interpret_snd, hrec, recordStatement_of_known hnone] at hlooks
    exact hlooks (.refl h)

/-- **Traces of a failure**: a record that fails leaves a trace in the history exactly when it holds
a statement that is not rejected, but has an invalid position, and that some table it changes does
not know yet. In all other cases, a missing image and a rejected statement among them, the history
is the same as before. -/
theorem failure_leaves_trace_iff {h : SchemaHistory} {r : LogRecord} {e : Error}
    (hfail : (t.interpret h r).1 = .error e) :
    (¬ h.LooksSame (t.interpret h r).2 ↔
      ∃ s changes, r.content = .statement s ∧ t.changes s = .ok changes ∧
        t.position r = .error e ∧ ∃ c ∈ changes, s.ddl ∉ h.statements c.table) ∧
    (h.LooksSame (t.interpret h r).2 → (t.interpret h r).2 = h) := by
  refine ⟨⟨fun hlooks => ?_, ?_⟩, fun hlooks => ?_⟩
  · obtain ⟨s, changes, hs, hc, hnew⟩ := tellsNews_of_not_looksSame hlooks
    exact ⟨s, changes, hs, hc, position_of_interpret_error hfail hs hc, hnew⟩
  · rintro ⟨s, changes, hs, hc, -, c, hmem, hnew⟩ hlooks
    -- A trace would be that the table knows the statement now.
    apply hnew
    rw [← hlooks.statements c.table, interpret_snd, events_snd_of_statement hs hc]
    exact mem_statements_recordStatement h s changes hmem
  · rw [interpret_snd] at hlooks ⊢
    -- If the history looks the same, every table knew the statement, and nothing was recorded.
    rcases t.events_snd h r with hsame | ⟨s, changes, hs, hc, hrec⟩
    · exact hsame
    · rw [hrec] at hlooks ⊢
      refine recordStatement_of_known fun c hmem => ?_
      rw [← hlooks.statements c.table]
      exact mem_statements_recordStatement h s changes hmem

/-! ## Plain records -/

/-- An interpreter that knows no tables. -/
def plain : Interpreter := ⟨"reader", .empty, Schema.Dialect.basic.interpretation⟩

end Interpreter

/-- A record of a row that was inserted. -/
def LogRecord.inserted (table : String) (place : Int) : LogRecord where
  partition := .single "server" (.string "shop")
  offset := .single "pos" (.int place)
  payload := some ⟨some "c", none, some .empty, none, ⟨0, none, some table⟩⟩

/-- A record of a statement. -/
def LogRecord.altering (ddl : String) (place : Int) : LogRecord where
  partition := .single "server" (.string "shop")
  offset := .single "pos" (.int place)
  payload := some ⟨none, none, none, some ddl, .unknown⟩

/-! ### A statement without a position -/

/-- A statement that was found nowhere in the log. -/
def LogRecord.unplaced (ddl : String) : LogRecord :=
  ⟨.empty, .empty, some ⟨none, none, none, some ddl, .unknown⟩⟩

namespace Interpreter

private theorem interpret_unplaced_isOk :
    (plain.interpret .empty (.unplaced "CREATE TABLE t (a INT)")).1.isOk = false := by
  decide +kernel

private theorem not_looksSame_interpret_unplaced :
    ¬ SchemaHistory.empty.LooksSame
      (plain.interpret .empty (.unplaced "CREATE TABLE t (a INT)")).2 := by
  intro hlooks
  have hrecorded : (plain.interpret .empty (.unplaced "CREATE TABLE t (a INT)")).2.statements "t" =
      ["CREATE TABLE t (a INT)"] := by
    decide +kernel
  rw [hlooks.statements "t"] at hrecorded
  exact absurd hrecorded (by decide)

/-- A statement without a position fails, and is in the history nevertheless. -/
theorem unplaced_statement_leaves_trace :
    (plain.interpret .empty (.unplaced "CREATE TABLE t (a INT)")).1.isOk = false ∧
      ¬ SchemaHistory.empty.LooksSame
        (plain.interpret .empty (.unplaced "CREATE TABLE t (a INT)")).2 :=
  ⟨interpret_unplaced_isOk, not_looksSame_interpret_unplaced⟩

/-- The trace of that statement has the reason that it must have. -/
theorem unplaced_statement_is_not_rejected :
    ∃ e, (plain.interpret .empty (.unplaced "CREATE TABLE t (a INT)")).1 = .error e ∧
      ∃ s changes, (LogRecord.unplaced "CREATE TABLE t (a INT)").content = .statement s ∧
        plain.changes s = .ok changes ∧
        plain.position (.unplaced "CREATE TABLE t (a INT)") = .error e ∧
        ∃ c ∈ changes, s.ddl ∉ SchemaHistory.empty.statements c.table := by
  cases hresult : (plain.interpret .empty (.unplaced "CREATE TABLE t (a INT)")).1 with
  | ok events =>
    have hfailed := interpret_unplaced_isOk
    rw [hresult] at hfailed
    cases hfailed
  | error e =>
    exact ⟨e, rfl, (failure_leaves_trace_iff hresult).1.1 not_looksSame_interpret_unplaced⟩

end Interpreter

end ChangeFeed

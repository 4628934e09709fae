import ChangeFeed.Proofs.History.Growth
import ChangeFeed.Proofs.Interpretation.Outcome

/-!
# From records to events: What is recorded

The history can be told from the events. Whoever has seen the events of a run knows of every table
which statements it was given: those of the records with a change of its structure among their
events, in the order of the records, each at its first place. The changes of one record may concern
a table many times, and many tables once; its statement goes to each of them once.

## Main results

* `Follows.trans`: what two runs add one after the other is what they add together.
* `follows_interpret`, `follows_historyAfter`: what a record adds, and what a run of records adds.
* `history_follows_events`: the history after a run of records that all make their events.
-/

namespace ChangeFeed

/-! ## What is added to a history -/

namespace SchemaHistory

open StatementLists (additions additions_append)

/-- Every table was given its texts, those that it did not know, and no other table was touched. -/
structure Follows (h : SchemaHistory) (texts : String → List String) (h' : SchemaHistory) :
    Prop where
  statements : ∀ table,
    h'.statements table = h.statements table ++ additions (h.statements table) (texts table)
  untouched : ∀ table, texts table = [] → h'.tables.get? table = h.tables.get? table
  /-- There is a generation for every statement of a table that came. -/
  counted : ∃ added, h'.tables.total = h.tables.total + added ∧
    h'.generation = h.generation + added
  isRepetitionFree : h.tables.IsRepetitionFree → h'.tables.IsRepetitionFree

namespace Follows

variable {h h' h'' : SchemaHistory} {texts more : String → List String}

theorem refl (h : SchemaHistory) : h.Follows (fun _ => []) h :=
  ⟨fun _ => (List.append_nil _).symm, fun _ _ => rfl, ⟨0, rfl, rfl⟩, id⟩

/-- What comes second is added behind what came first, as far as it is still new. -/
theorem trans (hfirst : h.Follows texts h') (hsecond : h'.Follows more h'') :
    h.Follows (fun table => texts table ++ more table) h'' where
  statements table := by
    rw [hsecond.statements, hfirst.statements, additions_append, List.append_assoc]
  untouched table hnone := by
    obtain ⟨htexts, hmore⟩ := List.append_eq_nil_iff.1 hnone
    rw [hsecond.untouched table hmore, hfirst.untouched table htexts]
  counted := by
    -- What is added in two steps is counted in both.
    obtain ⟨added, htotal, hgeneration⟩ := hfirst.counted
    obtain ⟨added', htotal', hgeneration'⟩ := hsecond.counted
    exact ⟨added + added', by omega, by omega⟩
  isRepetitionFree hfree := hsecond.isRepetitionFree (hfirst.isRepetitionFree hfree)

/-- Texts that add the same do the same. -/
theorem congr (hfollows : h.Follows texts h')
    (hnone : ∀ table, more table = [] → texts table = [])
    (hsame : ∀ known table, additions known (more table) = additions known (texts table)) :
    h.Follows more h' where
  statements table := by rw [hfollows.statements, hsame]
  untouched table hmore := hfollows.untouched table (hnone table hmore)
  counted := hfollows.counted
  isRepetitionFree := hfollows.isRepetitionFree

end Follows

/-- One text for one table. -/
theorem follows_record (h : SchemaHistory) (table ddl : String) :
    h.Follows (fun other => if table = other then [ddl] else []) (h.record table ddl).2 := by
  by_cases hknown : ddl ∈ h.statements table
  · -- A text that the table knows adds nothing to it.
    rw [record_of_mem hknown]
    refine { Follows.refl h with
      statements := fun other => ?_
      untouched := fun _ _ => rfl }
    split
    next heq =>
      rw [StatementLists.additions_of_subset (by simpa [← heq] using hknown), List.append_nil]
    next => exact (List.append_nil _).symm
  · -- A new text goes to the end of its table's list, and every other table is as it was.
    refine ⟨fun other => ?_, fun other hother => ?_, ?_, fun hfree => ?_⟩
    · rw [statements_record]
      split
      next hboth =>
        obtain ⟨rfl, -⟩ := hboth
        rw [if_pos rfl, StatementLists.additions_cons, if_neg hknown]
        rfl
      next hneither =>
        rw [if_neg fun heq => hneither ⟨heq.symm, hknown⟩]
        exact (List.append_nil _).symm
    · have hne : other ≠ table := by
        rintro rfl
        simp at hother
      rw [record_of_not_mem hknown]
      exact (SortedMap.get?_insert ..).trans (if_neg hne)
    · rw [record_of_not_mem hknown]
      have htotal := h.tables.total_insert table (h.statements table ++ [ddl])
      refine ⟨1, ?_, rfl⟩
      rw [List.length_append, SchemaHistory.statements] at htotal
      simp only [List.length_singleton, SchemaHistory.statements] at htotal ⊢
      omega
    · rw [record_of_not_mem hknown]
      exact hfree.insert table
        (StatementLists.nodup_append_singleton (hfree.nodup_statements table) hknown)

end SchemaHistory

/-! ## Records -/

/-- The text of the statement of a record, whatever else the record says. -/
def LogRecord.ddl? (r : LogRecord) : Option String := r.payload.bind (·.ddl)

/-- A record with a statement has the text of that statement. -/
theorem LogRecord.ddl?_of_statement {r : LogRecord} {s : StatementRecord}
    (hcontent : r.content = .statement s) : r.ddl? = some s.ddl := by
  -- The payload has no operation, and the text is what makes it a statement.
  unfold content at hcontent
  split at hcontent
  next => cases hcontent
  next p hpayload =>
    split at hcontent
    next => cases hcontent
    next ddl hcode hddl =>
      cases hcontent
      rw [ddl?, hpayload, Option.bind_some, hddl]
    next => cases hcontent

/-- The event is a change of the structure of the table. -/
def TableEvent.changesStructureOf (e : TableEvent) (table : String) : Bool :=
  e.isSchemaChange && e.table == table

namespace Interpreter

open SchemaHistory (Follows)
open StatementLists (additions additions_cons additions_append_of_subset)

variable {t : Interpreter} {r : LogRecord} {h : SchemaHistory}

/-- Among the events of the record is a change of the structure of the table. -/
def changesTable (t : Interpreter) (table : String) (r : LogRecord) : Bool :=
  match t.eventsOf r with
  | .ok events => events.any (·.event.changesStructureOf table)
  | .error _ => false

/-- What a record has for the history of a table. -/
def textsFor (t : Interpreter) (table : String) (r : LogRecord) : List String :=
  if t.changesTable table r then r.ddl?.toList else []

/-- The history after a run of records. -/
def historyAfter (t : Interpreter) (h : SchemaHistory) (records : List LogRecord) :
    SchemaHistory :=
  records.foldl (fun h r => (t.interpret h r).2) h

/-! ### One record -/

/-- A statement goes once to every table that it changes, however often it changes it. -/
theorem follows_recordStatement (h : SchemaHistory) (s : StatementRecord)
    (changes : List Schema.TableChange) :
    h.Follows (fun table => if changes.any (·.table == table) then [s.ddl] else [])
      (recordStatement h s changes) := by
  -- The induction is on the changes: the first one records the text, and from then on its table
  -- knows it.
  induction changes generalizing h with
  | nil => exact .refl h
  | cons c changes ih =>
    have hboth := (h.follows_record c.table s.ddl).trans (ih _)
    refine hboth.congr (fun table hnone => ?_) fun known table => ?_
    · by_cases hfirst : c.table = table
      · simp [hfirst] at hnone
      · simpa [hfirst] using hnone
    · by_cases hfirst : c.table = table
      · -- The changes behind the first one have nothing new for its table.
        have hagain : (if changes.any (·.table == table) then [s.ddl] else []) ⊆
            known ++ [s.ddl] := by
          split <;> simp
        have hsame := additions_append_of_subset hagain
        simpa only [hfirst, List.any_cons, beq_self_eq_true, Bool.true_or, if_true] using hsame.symm
      · simp [hfirst]

/-- A record with a statement tells the changes that the statement makes. -/
theorem Tells.of_statement {s : StatementRecord} {found : List TableEvent}
    (hcontent : r.content = .statement s) (htells : t.Tells r found) :
    ∃ changes, t.changes s = .ok changes ∧ found = changes.map (changeEvent s) := by
  -- The events of a statement are told whatever the history is, so an empty one will do.
  have hfound := htells.events_eq .empty
  unfold events at hfound
  rw [hcontent] at hfound
  cases hchanges : t.changes s with
  | ok changes =>
    simp only [hchanges] at hfound
    exact ⟨changes, rfl, (Except.ok.inj hfound).symm⟩
  | error e =>
    simp only [hchanges] at hfound
    cases hfound

/-- A record without a statement tells nothing about the structure of a table. -/
theorem Tells.isRowChange {found : List TableEvent} (hcontent : ∀ s, r.content ≠ .statement s)
    (htells : t.Tells r found) : ∀ e ∈ found, e.isSchemaChange = false := by
  cases htells with
  | statement hpayload hcode hddl =>
    exact absurd (LogRecord.content_of_ddl hpayload hcode hddl) (hcontent _)
  | _ => simp [TableEvent.isSchemaChange]

/-- **One record**: what it adds to the history is what its events say. -/
theorem follows_interpret {events : List PlacedEvent} (h : SchemaHistory)
    (hevents : t.eventsOf r = .ok events) :
    h.Follows (fun table => t.textsFor table r) (t.interpret h r).2 := by
  have htells := ((interpret_eq_ok_iff .empty).1 hevents).tells
  -- Whether the record changes the table is read off its events.
  have htexts : ∀ table, t.changesTable table r =
      (events.map (·.event)).any (·.changesStructureOf table) := fun table => by
    rw [changesTable, hevents, List.any_map]
    rfl
  rw [interpret_snd]
  by_cases hcontent : ∃ s, r.content = .statement s
  · -- The events of a statement are the changes for which it is recorded.
    obtain ⟨s, hs⟩ := hcontent
    obtain ⟨changes, hchanges, hfound⟩ := htells.of_statement hs
    rw [events_snd_of_statement hs hchanges]
    have hsame : (fun table => t.textsFor table r) =
        fun table => if changes.any (·.table == table) then [s.ddl] else [] := by
      funext table
      rw [textsFor, htexts, hfound, List.any_map, LogRecord.ddl?_of_statement hs]
      rfl
    rw [hsame]
    exact follows_recordStatement h s changes
  · -- Without a statement nothing is recorded, and no event is about a structure.
    have hcontent := not_exists.1 hcontent
    have hstays : (t.events h r).2 = h :=
      (t.events_snd h r).resolve_right fun ⟨s, _, hs, _⟩ => hcontent s hs
    have hnone : (fun table => t.textsFor table r) = fun _ => [] := by
      funext table
      rw [textsFor, htexts, if_neg]
      have hrows := htells.isRowChange hcontent
      simp only [Bool.not_eq_true, List.any_eq_false]
      intro e he
      simp [TableEvent.changesStructureOf, hrows e he]
    rw [hstays, hnone]
    exact .refl h

/-- A record that changes the structure of a table has the text of a statement. -/
theorem exists_ddl_of_changesTable {table : String} (hchanges : t.changesTable table r = true) :
    ∃ ddl, r.ddl? = some ddl := by
  unfold changesTable at hchanges
  split at hchanges
  next events hevents =>
    obtain ⟨e, he, hstructure⟩ := List.any_eq_true.1 hchanges
    by_contra hnone
    -- Without a text the record holds no statement, and all that it tells are changes of rows.
    have hcontent : ∀ s, r.content ≠ .statement s := fun s hs =>
      hnone ⟨s.ddl, LogRecord.ddl?_of_statement hs⟩
    have htells := ((interpret_eq_ok_iff .empty).1 hevents).tells
    have hrow := htells.isRowChange hcontent e.event (List.mem_map_of_mem he)
    simp [TableEvent.changesStructureOf, hrow] at hstructure
  next => cases hchanges

/-- To a table that it changes a record gives its text, if it is new; to any other table nothing. -/
theorem statements_interpret {events : List PlacedEvent} (h : SchemaHistory)
    (hevents : t.eventsOf r = .ok events) (table : String) :
    (t.changesTable table r = false →
      (t.interpret h r).2.statements table = h.statements table) ∧
    (t.changesTable table r = true → ∃ ddl, r.ddl? = some ddl ∧
      (t.interpret h r).2.statements table =
        if ddl ∈ h.statements table then h.statements table
        else h.statements table ++ [ddl]) := by
  have hadded := (follows_interpret h hevents).statements table
  rw [textsFor] at hadded
  refine ⟨fun hspares => ?_, fun hchanges => ?_⟩
  · -- Without a text to add, the list is as it was.
    simpa [hspares, additions] using hadded
  · obtain ⟨ddl, hddl⟩ := exists_ddl_of_changesTable hchanges
    refine ⟨ddl, hddl, ?_⟩
    rw [if_pos hchanges, hddl, Option.toList_some, additions_cons] at hadded
    rw [hadded]
    -- A text that is known adds nothing, and another one goes to the end.
    split
    · simp [additions]
    · simp [additions]

/-! ### Runs -/

/-- **Runs**: what a run of records adds to the history is what their events say. -/
theorem follows_historyAfter (h : SchemaHistory) {records : List LogRecord}
    (hevents : ∀ r ∈ records, ∃ events, t.eventsOf r = .ok events) :
    h.Follows (fun table => records.flatMap (t.textsFor table)) (t.historyAfter h records) := by
  induction records generalizing h with
  | nil => exact .refl h
  | cons r records ih =>
    rw [List.forall_mem_cons] at hevents
    obtain ⟨⟨events, hfirst⟩, hlater⟩ := hevents
    exact (follows_interpret h hfirst).trans (ih _ hlater)

/-- The last record is interpreted with the history that the records before it have led to. -/
theorem historyAfter_append_singleton (t : Interpreter) (h : SchemaHistory)
    (before : List LogRecord) (r : LogRecord) :
    t.historyAfter h (before ++ [r]) = (t.interpret (t.historyAfter h before) r).2 :=
  List.foldl_append

/-- **The history follows the events**: after records that all made their events, every table has
what it had and then, in their order, the texts of the records that changed its structure, each once
and only if it was new. A table that was not changed is as it was, and there is a new generation for
every statement that came to a table. Every single record gave its text at most once to a table,
however many of its changes concern it. -/
theorem history_follows_events (t : Interpreter) {h : SchemaHistory} {records : List LogRecord}
    (hfree : h.tables.IsRepetitionFree)
    (hevents : ∀ r ∈ records, ∃ events, t.eventsOf r = .ok events) :
    let h' := t.historyAfter h records
    (∀ table, h'.statements table = h.statements table ++
      additions (h.statements table) (records.flatMap (t.textsFor table))) ∧
    (∀ table, (∀ r ∈ records, t.changesTable table r = false) →
      h'.tables.get? table = h.tables.get? table) ∧
    h'.tables.IsRepetitionFree ∧
    (∃ added, h'.tables.total = h.tables.total + added ∧
      h'.generation = h.generation + added) ∧
    ∀ before r, before ++ [r] <+: records → ∀ table,
      let earlier := (t.historyAfter h before).statements table
      let later := (t.historyAfter h (before ++ [r])).statements table
      (t.changesTable table r = false → later = earlier) ∧
      (t.changesTable table r = true → ∃ ddl, r.ddl? = some ddl ∧
        later = if ddl ∈ earlier then earlier else earlier ++ [ddl]) := by
  intro h'
  have hfollows : h.Follows _ h' := follows_historyAfter h hevents
  refine ⟨hfollows.statements, fun table hspared => hfollows.untouched table ?_,
    hfollows.isRepetitionFree hfree, hfollows.counted, fun before r hbefore table => ?_⟩
  · -- A table that no record changes is given no text.
    refine List.flatMap_eq_nil_iff.2 fun r hr => ?_
    rw [textsFor, hspared r hr]
    rfl
  · obtain ⟨events, hr⟩ := hevents r (hbefore.subset (by simp))
    intro earlier later
    have hlater : later = (t.interpret (t.historyAfter h before) r).2.statements table :=
      congrArg (·.statements table) (t.historyAfter_append_singleton h before r)
    rw [hlater]
    exact statements_interpret _ hr table

/-! ### A statement about two tables -/

/-- A statement about two tables, one with two changes of a table, a row, and the first statement
once more. -/
def dropsAndAlters : List LogRecord :=
  [.altering "DROP TABLE a, b" 1, .altering "ALTER TABLE a ADD COLUMN x INT, ADD COLUMN y INT" 2,
    .inserted "b" 3, .altering "DROP TABLE a, b" 4]

/-- One of the two tables knows the first statement already. -/
theorem dropsAndAlters_are_recorded :
    let h := (SchemaHistory.empty.record "b" "DROP TABLE a, b").2
    let h' := plain.historyAfter h dropsAndAlters
    h.tables.IsRepetitionFree ∧
    (∀ r ∈ dropsAndAlters, ∃ events, plain.eventsOf r = .ok events) ∧
    h'.statements "a" =
      ["DROP TABLE a, b", "ALTER TABLE a ADD COLUMN x INT, ADD COLUMN y INT"] ∧
    h'.statements "b" = ["DROP TABLE a, b"] ∧
    h'.tables.get? "c" = none ∧
    h'.generation = h.generation + 2 := by
  intro h h'
  -- Nothing is repeated in the empty history, and a record does not repeat what is known.
  have hfree : h.tables.IsRepetitionFree :=
    (SchemaHistory.follows_record _ _ _).isRepetitionFree .empty
  have hevents : ∀ r ∈ dropsAndAlters, ∃ events, plain.eventsOf r = .ok events :=
    exists_eventsOf_of_all (by decide +kernel)
  obtain ⟨hstatements, hspared, -, -⟩ := history_follows_events plain hfree hevents
  refine ⟨hfree, hevents, ?_, ?_, ?_, by decide +kernel⟩
  · rw [hstatements]
    decide +kernel
  · rw [hstatements]
    decide +kernel
  · rw [hspared "c" (by decide +kernel)]
    decide +kernel

end Interpreter

end ChangeFeed

import ChangeFeed.Proofs.Interpretation
import ChangeFeed.Proofs.Position

/-!
# From records to events: Outcome

What becomes of a record, told by the record alone. A record can fail in three ways: the image of a
row that its operation needs is not there, its statement is rejected, or what happened has no place
in the log. Every other record makes the events that it tells, all at one time and one position, and
a record that tells nothing is not asked for its position.

## Main results

* `tells_or_fails`: a record tells what happened, lacks an image or is rejected.
* `interpret_eq_ok_iff`, `interpret_eq_error_iff`: the events of a record, and its failures.
* `outcome_of_record`: both, for every interpreter and whatever the history is.
-/

namespace ChangeFeed

/-! ## Records -/

/-- The table of a change of a row. -/
def Payload.table (p : Payload) : String := p.source.table.getD ""

/-- A statement counts where there is no change of a row. -/
theorem LogRecord.content_of_ddl {r : LogRecord} {p : Payload} {ddl : String}
    (hpayload : r.payload = some p) (hcode : p.code = none) (hddl : p.ddl = some ddl) :
    r.content = .statement ⟨ddl, p.source.database, p.source.time⟩ := by
  simp only [content, hpayload, hcode, hddl]

/-- A change of a row does not come with the image that it needs. -/
inductive LogRecord.LacksImage (r : LogRecord) : Error → Prop where
  | after {p : Payload} {code operation : String} : r.payload = some p → p.code = some code →
    code = "c" ∧ operation = "insert" ∨ code = "u" ∧ operation = "update" → p.after = none →
    LacksImage r (.missingSection operation "after"
      (RowChange.describe ⟨code, p.table, p.before, p.after, p.source.time⟩))
  | before {p : Payload} : r.payload = some p → p.code = some "d" → p.before = none →
    LacksImage r (.missingSection "delete" "before"
      (RowChange.describe ⟨"d", p.table, p.before, p.after, p.source.time⟩))

/-- Only three codes stand for an operation on rows. -/
theorem RowOperation.ofCode?_eq_none_iff {code : String} :
    ofCode? code = none ↔ code ∉ ["c", "u", "d"] := by
  unfold ofCode?
  split
  · simp
  · simp
  · simp
  next hc hu hd => simpa using ⟨hc, hu, hd⟩

namespace Interpreter

variable {t : Interpreter} {r : LogRecord}

/-- A record holds a statement, and no change of a row, and the statement is rejected. -/
inductive Rejects (t : Interpreter) (r : LogRecord) : Error → Prop where
  | statement {p : Payload} {ddl : String} {cause : Error} : r.payload = some p → p.code = none →
    p.ddl = some ddl → t.statements t.catalog ddl = .error cause →
    Rejects t r (.statementRejected ddl cause)

/-- What a record tells happened. Where there is a code, a statement beside it does not count. -/
inductive Tells (t : Interpreter) (r : LogRecord) : List TableEvent → Prop where
  | heartbeat : r.payload = none → Tells t r []
  | marker {p : Payload} : r.payload = some p → p.code = none → p.ddl = none → Tells t r []
  | unknown {p : Payload} {code : String} : r.payload = some p → p.code = some code →
    code ∉ ["c", "u", "d"] → Tells t r []
  | insert {p : Payload} {after : LoggedRow} : r.payload = some p → p.code = some "c" →
    p.after = some after → Tells t r [.insert p.table (t.row p.table after) p.source.time]
  | update {p : Payload} {after : LoggedRow} : r.payload = some p → p.code = some "u" →
    p.after = some after →
    Tells t r
      [.update p.table (p.before.map (t.row p.table)) (t.row p.table after) p.source.time]
  | delete {p : Payload} {before : LoggedRow} : r.payload = some p → p.code = some "d" →
    p.before = some before → Tells t r [.delete p.table (t.row p.table before) p.source.time]
  | statement {p : Payload} {ddl : String} {changes : List Schema.TableChange} :
    r.payload = some p → p.code = none → p.ddl = some ddl →
    t.statements t.catalog ddl = .ok changes →
    Tells t r (changes.map fun c => .schemaChange c.table c.operation p.source.time)

/-- Something happened, but the partition or the offset of the record is empty or not flat. -/
inductive Misplaces (t : Interpreter) (r : LogRecord) : Error → Prop where
  | events {found : List TableEvent} {fault : PositionFault} : t.Tells r found → found ≠ [] →
    ¬ HasOnlyPrimitives r.partition ∨ ¬ HasOnlyPrimitives r.offset →
    ResumePoint.ofSource t.session r.partition r.offset = .error fault →
    Misplaces t r (.invalidPosition fault.message)

/-- What a record tells happened, right before one position. -/
inductive Places (t : Interpreter) (r : LogRecord) : List PlacedEvent → Prop where
  | nothing : t.Tells r [] → Places t r []
  | events {found : List TableEvent} {position : ResumePoint} : t.Tells r found → found ≠ [] →
    HasOnlyPrimitives r.partition → HasOnlyPrimitives r.offset →
    ResumePoint.ofSource t.session r.partition r.offset = .ok position →
    Places t r (found.map (⟨·, position⟩))

/-- Placed events are what the record tells. -/
theorem Places.tells {events : List PlacedEvent} (hplaces : t.Places r events) :
    t.Tells r (events.map (·.event)) := by
  cases hplaces with
  | nothing htells => exact htells
  | events htells =>
    rw [List.map_map]
    exact (List.map_id _).symm ▸ htells

/-- All events of a record are at one place. -/
theorem Places.position_eq {events : List PlacedEvent} (hplaces : t.Places r events)
    {e : PlacedEvent} (he : e ∈ events) : t.position r = .ok e.position := by
  cases hplaces with
  | nothing => cases he
  | events _ _ _ _ hposition =>
    obtain ⟨event, -, rfl⟩ := List.mem_map.1 he
    rw [position, hposition]
    rfl

/-! ## What a record tells -/

section

variable {h : SchemaHistory} {p : Payload} {code ddl : String}

/-- A record with a code is about a row. -/
theorem events_of_code (hpayload : r.payload = some p) (hcode : p.code = some code) :
    (t.events h r).1 =
      (t.rowEvent ⟨code, p.table, p.before, p.after, p.source.time⟩).map Option.toList := by
  unfold events
  rw [LogRecord.content, hpayload]
  simp only [hcode]
  unfold Payload.table
  cases t.rowEvent ⟨code, p.source.table.getD "", p.before, p.after, p.source.time⟩ <;> rfl

/-- A record without a code is about a statement, if it has one. -/
theorem events_of_statement (hpayload : r.payload = some p) (hcode : p.code = none)
    (hddl : p.ddl = some ddl) :
    (t.events h r).1 =
      ((t.statements t.catalog ddl).mapError (.statementRejected ddl)).map fun changes =>
        changes.map fun c => .schemaChange c.table c.operation p.source.time := by
  unfold events
  rw [LogRecord.content_of_ddl hpayload hcode hddl]
  simp only [changes]
  cases t.statements t.catalog ddl <;> rfl

/-- What a record tells is what becomes of it, whatever the history holds. -/
theorem Tells.events_eq {found : List TableEvent} (htells : t.Tells r found)
    (h : SchemaHistory) : (t.events h r).1 = .ok found := by
  -- There is a case for each way in which a record can tell something or nothing.
  cases htells with
  | heartbeat hpayload =>
    unfold events
    rw [LogRecord.content, hpayload]
  | marker hpayload hcode hddl =>
    unfold events
    rw [LogRecord.content, hpayload]
    simp only [hcode, hddl]
  | unknown hpayload hcode hunknown =>
    rw [events_of_code hpayload hcode, rowEvent, RowOperation.ofCode?_eq_none_iff.2 hunknown]
    rfl
  | insert hpayload hcode hafter =>
    rw [events_of_code hpayload hcode, rowEvent, hafter]
    rfl
  | update hpayload hcode hafter =>
    rw [events_of_code hpayload hcode, rowEvent, hafter]
    rfl
  | delete hpayload hcode hbefore =>
    rw [events_of_code hpayload hcode, rowEvent, hbefore]
    rfl
  | statement hpayload hcode hddl hchanges =>
    rw [events_of_statement hpayload hcode hddl, hchanges]
    rfl

/-- A record without the image that its operation needs comes to nothing. -/
theorem events_of_lacksImage {e : Error} (hlacks : r.LacksImage e) (h : SchemaHistory) :
    (t.events h r).1 = .error e := by
  -- An operation asks for the image that it tells of, and fails without it.
  cases hlacks with
  | after hpayload hcode hoperation hafter =>
    rw [events_of_code hpayload hcode, rowEvent]
    rcases hoperation with ⟨rfl, rfl⟩ | ⟨rfl, rfl⟩
    · simp only [RowOperation.ofCode?, hafter]
      rfl
    · simp only [RowOperation.ofCode?, hafter]
      rfl
  | before hpayload hcode hbefore =>
    rw [events_of_code hpayload hcode, rowEvent]
    simp only [RowOperation.ofCode?, hbefore]
    rfl

/-- Nor does one come to anything whose statement is rejected. -/
theorem Rejects.events_eq {e : Error} (hrejects : t.Rejects r e) (h : SchemaHistory) :
    (t.events h r).1 = .error e := by
  cases hrejects with
  | statement hpayload hcode hddl hcause =>
    rw [events_of_statement hpayload hcode hddl, hcause]
    rfl

/-- A record tells its events, lacks an image or is rejected. -/
theorem tells_or_fails (t : Interpreter) (r : LogRecord) :
    (∃ found, t.Tells r found) ∨ ∃ e, r.LacksImage e ∨ t.Rejects r e := by
  cases hpayload : r.payload with
  | none => exact .inl ⟨_, .heartbeat hpayload⟩
  | some p =>
    -- With a code only the images count, and without one only the statement.
    cases hcode : p.code with
    | none =>
      cases hddl : p.ddl with
      | none => exact .inl ⟨_, .marker hpayload hcode hddl⟩
      | some ddl =>
        cases hchanges : t.statements t.catalog ddl with
        | ok changes => exact .inl ⟨_, .statement hpayload hcode hddl hchanges⟩
        | error cause => exact .inr ⟨_, .inr (.statement hpayload hcode hddl hchanges)⟩
    | some code =>
      by_cases hknown : code ∈ ["c", "u", "d"]
      · simp only [List.mem_cons, List.not_mem_nil, or_false] at hknown
        rcases hknown with rfl | rfl | rfl
        · cases hafter : p.after with
          | some after => exact .inl ⟨_, .insert hpayload hcode hafter⟩
          | none => exact .inr ⟨_, .inl (.after hpayload hcode (.inl ⟨rfl, rfl⟩) hafter)⟩
        · cases hafter : p.after with
          | some after => exact .inl ⟨_, .update hpayload hcode hafter⟩
          | none => exact .inr ⟨_, .inl (.after hpayload hcode (.inr ⟨rfl, rfl⟩) hafter)⟩
        · cases hbefore : p.before with
          | some before => exact .inl ⟨_, .delete hpayload hcode hbefore⟩
          | none => exact .inr ⟨_, .inl (.before hpayload hcode hbefore)⟩
      · exact .inl ⟨_, .unknown hpayload hcode hknown⟩

end

/-! ## What becomes of a record -/

section

variable {h : SchemaHistory} {found : List TableEvent}

theorem interpret_of_events_error {e : Error} (hfailed : (t.events h r).1 = .error e) :
    (t.interpret h r).1 = .error e := by
  simp only [interpret, hfailed, bind, Except.bind]

/-- Only where there are events a position is asked for. -/
theorem interpret_of_tells (htells : t.Tells r found) (h : SchemaHistory) :
    (t.interpret h r).1 =
      if found = [] then .ok []
      else
        ((ResumePoint.ofSource t.session r.partition r.offset).mapError
          PositionFault.toError).map fun position => found.map (⟨·, position⟩) := by
  -- No events need no position, so it is looked for only when there are some.
  simp only [interpret, htells.events_eq h, bind, Except.bind]
  cases found with
  | nil => rfl
  | cons event found =>
    rw [if_neg (by simp), placed, position]
    · cases ResumePoint.ofSource t.session r.partition r.offset <;> rfl
    · simp

/-- Events without a place are an error. -/
theorem Misplaces.interpret_eq {e : Error} (hmisplaces : t.Misplaces r e) (h : SchemaHistory) :
    (t.interpret h r).1 = .error e := by
  cases hmisplaces with
  | events htells hne _ hfault =>
    rw [interpret_of_tells htells, if_neg hne, hfault]
    rfl

/-- Events with a place are what becomes of the record. -/
theorem Places.interpret_eq {events : List PlacedEvent} (hplaces : t.Places r events)
    (h : SchemaHistory) : (t.interpret h r).1 = .ok events := by
  cases hplaces with
  | nothing htells => rw [interpret_of_tells htells, if_pos rfl]
  | events htells hne _ _ hposition =>
    rw [interpret_of_tells htells, if_neg hne, hposition]
    rfl

/-- Each of the three faults is the error that the record ends with. -/
theorem interpret_of_failure {e : Error}
    (hfails : r.LacksImage e ∨ t.Rejects r e ∨ t.Misplaces r e) (h : SchemaHistory) :
    (t.interpret h r).1 = .error e := by
  rcases hfails with hlacks | hrejects | hmisplaces
  · exact interpret_of_events_error (events_of_lacksImage hlacks h)
  · exact interpret_of_events_error (hrejects.events_eq h)
  · exact hmisplaces.interpret_eq h

/-- What a record tells has a place, unless the partition or the offset is at fault. -/
theorem places_or_fails (t : Interpreter) (r : LogRecord) :
    (∃ events, t.Places r events) ∨
      ∃ e, r.LacksImage e ∨ t.Rejects r e ∨ t.Misplaces r e := by
  rcases t.tells_or_fails r with ⟨found, htells⟩ | ⟨e, hlacks | hrejects⟩
  · by_cases hne : found = []
    · subst hne
      exact .inl ⟨_, .nothing htells⟩
    · -- Only a record with events needs a place, and the offset gives it one or is at fault.
      cases hsource : ResumePoint.ofSource t.session r.partition r.offset with
      | ok position =>
        obtain ⟨⟨horigin, hoffset⟩, -⟩ := ResumePoint.ofSource_eq_ok_iff.1 hsource
        exact .inl ⟨_, .events htells hne horigin hoffset hsource⟩
      | error fault =>
        refine .inr ⟨_, .inr (.inr (.events htells hne (not_and_or.1 fun hflat => ?_) hsource))⟩
        cases hsource.symm.trans (ResumePoint.ofSource_eq_ok_iff.2 ⟨hflat, rfl⟩)
  · exact .inr ⟨e, .inl hlacks⟩
  · exact .inr ⟨e, .inr (.inl hrejects)⟩

/-- A record succeeds with exactly the events that it tells and their place. -/
theorem interpret_eq_ok_iff (h : SchemaHistory) {events : List PlacedEvent} :
    (t.interpret h r).1 = .ok events ↔ t.Places r events := by
  refine ⟨fun hplaced => ?_, fun hplaces => hplaces.interpret_eq h⟩
  -- The record tells or fails in some way, and that settles what became of it.
  rcases t.places_or_fails r with ⟨events', hplaces⟩ | ⟨e, hfails⟩
  · cases (hplaces.interpret_eq h).symm.trans hplaced
    exact hplaces
  · cases (interpret_of_failure hfails h).symm.trans hplaced

/-- A record fails with exactly the fault that it has. -/
theorem interpret_eq_error_iff (h : SchemaHistory) {e : Error} :
    (t.interpret h r).1 = .error e ↔ r.LacksImage e ∨ t.Rejects r e ∨ t.Misplaces r e := by
  refine ⟨fun hfailed => ?_, fun hfails => interpret_of_failure hfails h⟩
  rcases t.places_or_fails r with ⟨events, hplaces⟩ | ⟨e', hfails⟩
  · cases (hplaces.interpret_eq h).symm.trans hfailed
  · cases (interpret_of_failure hfails h).symm.trans hfailed
    exact hfails

end

/-- **Outcome**: a record fails if it lacks an image that its operation needs, if its statement is
rejected, or if it tells something that has no place; and only then. Otherwise its events are what
it tells, all right before the one position that its partition and its offset make. -/
theorem outcome_of_record (t : Interpreter) (h : SchemaHistory) (r : LogRecord) :
    (∀ e, (t.interpret h r).1 = .error e ↔ r.LacksImage e ∨ t.Rejects r e ∨ t.Misplaces r e) ∧
    ∀ events, (t.interpret h r).1 = .ok events ↔ t.Places r events :=
  ⟨fun _ => interpret_eq_error_iff h, fun _ => interpret_eq_ok_iff h⟩

end Interpreter

end ChangeFeed

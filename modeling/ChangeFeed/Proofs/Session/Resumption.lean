import ChangeFeed.Proofs.Interpretation.Outcome
import ChangeFeed.Proofs.Session.Completion

/-!
# Sessions: Resumption

What a reader misses that starts again at the last position it was told. The engine reads on with
the record behind the one at that position, and a position tells its record. So nothing comes twice.
But all events of a record have one position, and a session that ends between two of them goes on
behind the last.

## Main results

* `Interpreter.recordsAfter_of_split`: behind a position come the records behind its record.
* `Interpreter.rest_eq`: what follows an event is what its record still tells, and then what the
  records behind it tell.
* `Session.resumption_iff`: a session that starts again at the last position misses nothing exactly
  if the event that follows lies at another position.
-/

namespace ChangeFeed

/-! ## Records that differ in their offset -/

/-- Records of one partition that lie at different offsets. No JSON text holds an infinite number,
so neither do they. -/
structure LogRecord.Apart (records : List LogRecord) : Prop where
  partition : ∃ p, ∀ r ∈ records, r.partition = p
  offsets : records.Pairwise fun r r' => r.offset ≠ r'.offset
  finite : ∀ r ∈ records, r.offset.HasFiniteNumbers

namespace Interpreter

variable {t : Interpreter} {p : ResumePoint} {r : LogRecord} {records before after : List LogRecord}

/-- The position of a record is made of its partition and its offset. -/
theorem position_ok (h : t.position r = .ok p) :
    ResumePoint.ofSource t.session r.partition r.offset = .ok p := by
  unfold position at h
  cases hsource : ResumePoint.ofSource t.session r.partition r.offset with
  | ok q =>
    rw [hsource] at h
    cases h
    rfl
  | error f =>
    rw [hsource] at h
    cases h

/-- Records of one partition that have a position in common lie at one offset. -/
theorem offset_eq_of_position {r' : LogRecord} (hpartition : r.partition = r'.partition)
    (hr : r.offset.HasFiniteNumbers) (hr' : r'.offset.HasFiniteNumbers)
    (h : t.position r = .ok p) (h' : t.position r' = .ok p) : r.offset = r'.offset := by
  have hsource := position_ok h
  rw [hpartition] at hsource
  exact ResumePoint.ofSource_injective hr hr' hsource (position_ok h')

/-! ## Events and the position of their record -/

/-- All events of a record carry its position. -/
theorem position_of_mem_eventsOf {events : List PlacedEvent} (h : t.eventsOf r = .ok events)
    {e : PlacedEvent} (he : e ∈ events) : t.position r = .ok e.position :=
  ((interpret_eq_ok_iff .empty).1 h).position_eq he

/-- Every event that is told has the position of its record. -/
theorem exists_record_of_mem_transcript {e : PlacedEvent} (h : e ∈ t.transcript records) :
    ∃ r ∈ records, t.position r = .ok e.position := by
  -- A record that cannot be told ends the transcript, so only told ones are looked at.
  induction records with
  | nil => cases h
  | cons r records ih =>
    cases hevents : t.eventsOf r with
    | error f => simp [transcript, hevents] at h
    | ok events =>
      rw [transcript_cons_of_ok hevents] at h
      rcases List.mem_append.1 h with he | he
      · exact ⟨r, List.mem_cons_self, position_of_mem_eventsOf hevents he⟩
      · obtain ⟨r', hr', hposition⟩ := ih he
        exact ⟨r', List.mem_cons_of_mem r hr', hposition⟩

/-- Every event of a transcript has a record, which divides the others. -/
theorem split_of_transcript (htranslates : ∀ r ∈ records, ∃ events, t.eventsOf r = .ok events)
    {told rest : List PlacedEvent} {e : PlacedEvent}
    (h : t.transcript records = told ++ e :: rest) :
    ∃ before r after sent unsent, records = before ++ r :: after ∧
      t.eventsOf r = .ok (sent ++ e :: unsent) ∧ rest = unsent ++ t.transcript after := by
  induction records generalizing told with
  | nil => simp at h
  | cons r records ih =>
    rw [List.forall_mem_cons] at htranslates
    obtain ⟨⟨events, hevents⟩, htranslates⟩ := htranslates
    -- The event belongs to this record, or to one behind it.
    have later (told' : List PlacedEvent) (htold : t.transcript records = told' ++ e :: rest) :
        ∃ before r' after sent unsent, r :: records = before ++ r' :: after ∧
          t.eventsOf r' = .ok (sent ++ e :: unsent) ∧ rest = unsent ++ t.transcript after := by
      obtain ⟨before, r', after, sent, unsent, hrecords, hsplit⟩ := ih htranslates htold
      exact ⟨r :: before, r', after, sent, unsent, congrArg (r :: ·) hrecords, hsplit⟩
    rw [transcript_cons_of_ok hevents, List.append_eq_append_iff] at h
    obtain ⟨told', -, htold⟩ | ⟨unsent, hall, hrest⟩ := h
    · exact later told' htold
    · cases unsent with
      | nil => exact later [] hrest.symm
      | cons e' unsent =>
        obtain ⟨rfl, rfl⟩ := List.cons.inj hrest
        exact ⟨[], r, records, told, unsent, rfl, hall ▸ hevents, rfl⟩

/-! ## Reading on behind a position -/

/-- The record lies at the position. -/
def isAt (t : Interpreter) (p : ResumePoint) (r : LogRecord) : Bool :=
  match t.position r with
  | .ok q => q = p
  | .error _ => false

/-- The search stops at the record with that position. -/
theorem isAt_iff : t.isAt p r = true ↔ t.position r = .ok p := by
  unfold isAt
  cases t.position r with
  | ok q => simp
  | error f => simp

/-- The records that an engine reads which is started at a position: those behind the record that
lies there. -/
def recordsAfter (t : Interpreter) (p : ResumePoint) : List LogRecord → List LogRecord
  | [] => []
  | r :: records => if t.isAt p r then records else t.recordsAfter p records

/-- Behind a position come the records behind its record. -/
theorem recordsAfter_of_split (hapart : LogRecord.Apart (before ++ r :: after))
    (hr : t.position r = .ok p) : t.recordsAfter p (before ++ r :: after) = after := by
  induction before with
  | nil => rw [List.nil_append, recordsAfter, if_pos (isAt_iff.2 hr)]
  | cons r' before ih =>
    obtain ⟨⟨q, hpartition⟩, hoffsets, hfinite⟩ := hapart
    have hmem : r ∈ before ++ r :: after := by simp
    rw [List.cons_append, List.forall_mem_cons] at hpartition hfinite
    obtain ⟨hne, hoffsets⟩ := List.pairwise_cons.1 hoffsets
    -- No record in front lies at the position, for then the two would share an offset.
    have hnot : ¬ t.isAt p r' = true := fun hat =>
      hne r hmem (offset_eq_of_position (hpartition.1.trans (hpartition.2 r hmem).symm) hfinite.1
        (hfinite.2 r hmem) (isAt_iff.1 hat) hr)
    rw [List.cons_append, recordsAfter, if_neg hnot]
    exact ih ⟨⟨q, hpartition.2⟩, hoffsets, hfinite.2⟩

/-- No record behind another one tells an event at the position of that one. -/
theorem position_ne_of_mem_transcript (hapart : LogRecord.Apart (before ++ r :: after))
    (hr : t.position r = .ok p) {e : PlacedEvent} (he : e ∈ t.transcript after) :
    e.position ≠ p := by
  rintro rfl
  obtain ⟨r', hr', hposition⟩ := exists_record_of_mem_transcript he
  obtain ⟨⟨q, hpartition⟩, hoffsets, hfinite⟩ := hapart
  have hmem : r ∈ before ++ r :: after := by simp
  have hmem' : r' ∈ before ++ r :: after := by simp [hr']
  -- The two records have different offsets, and these show in their positions.
  have hne : r.offset ≠ r'.offset :=
    (List.pairwise_cons.1 (List.pairwise_append.1 hoffsets).2.1).1 r' hr'
  exact hne (offset_eq_of_position ((hpartition r hmem).trans (hpartition r' hmem').symm)
    (hfinite r hmem) (hfinite r' hmem') hr hposition)

/-- What follows an event: first what its record still tells, all of it at the position of the
event, and then what is told by the records that are read on behind that position. -/
theorem rest_eq (htranslates : ∀ r ∈ records, ∃ events, t.eventsOf r = .ok events)
    (hapart : LogRecord.Apart records) {told rest : List PlacedEvent} {e : PlacedEvent}
    (h : t.transcript records = told ++ e :: rest) :
    rest = rest.takeWhile (fun e' => e'.position = e.position) ++
        t.transcript (t.recordsAfter e.position records) := by
  obtain ⟨before, r, after, sent, unsent, rfl, hevents, rfl⟩ := split_of_transcript htranslates h
  have hr : t.position r = .ok e.position := position_of_mem_eventsOf hevents (by simp)
  have hunsent : ∀ e' ∈ unsent, decide (e'.position = e.position) = true := fun e' he' => by
    have hr' : t.position r = .ok e'.position := position_of_mem_eventsOf hevents (by simp [he'])
    simpa using hr'.symm.trans hr
  -- The records behind tell their events at other positions, so skipping ends with the record.
  have hafter : (t.transcript after).takeWhile (fun e' => e'.position = e.position) = [] := by
    cases hhead : t.transcript after with
    | nil => rfl
    | cons e' later =>
      have hne := position_ne_of_mem_transcript hapart hr (hhead ▸ List.mem_cons_self)
      rw [List.takeWhile_cons_of_neg (by simpa using hne)]
  rw [recordsAfter_of_split hapart hr, List.takeWhile_append_of_pos hunsent, hafter,
    List.append_nil]

end Interpreter

namespace Session

variable {σ : Type} {s : Session σ}

/-! ## Starting again -/

/-- What is delivered after a start at a position. -/
def replayed (s : Session σ) (p : ResumePoint) : List Batch :=
  (s.interpreter.transcript
    (s.interpreter.recordsAfter p (EngineStep.records s.setup.script))).map PlacedEvent.batch

/-- What was still to be accepted and lies at a position. -/
def skipped (s : Session σ) (p : ResumePoint) : List Batch :=
  (s.expected.drop s.accepted.length).takeWhile fun b => b.position = p

/-- Nothing is skipped if the next batch lies elsewhere. -/
theorem skipped_eq_nil_iff (s : Session σ) (p : ResumePoint) :
    s.skipped p = [] ↔ ∀ b ∈ s.expected[s.accepted.length]?, b.position ≠ p := by
  rw [skipped, ← List.head?_drop]
  cases s.expected.drop s.accepted.length with
  | nil => simp
  | cons b batches => simp [List.takeWhile_cons]

/-- What was accepted, what lies at the position of the last batch besides, and what is delivered
after a start there, are all that was expected. -/
theorem accepted_append_skipped (h : s.InOrder)
    (htranslates : ∀ r ∈ EngineStep.records s.setup.script,
      ∃ events, s.interpreter.eventsOf r = .ok events)
    (hapart : LogRecord.Apart (EngineStep.records s.setup.script)) {delivered : List Batch}
    {last : Batch} (hlast : s.accepted = delivered ++ [last]) :
    s.accepted ++ s.skipped last.position ++ s.replayed last.position = s.expected := by
  obtain ⟨pending, hpending⟩ : s.accepted <+: s.expected := (List.prefix_append _ _).trans h.handed
  have hdrop : s.expected.drop s.accepted.length = pending := by
    rw [← hpending, List.drop_left]
  -- The batches are told by events, the last of which was accepted with its position.
  have hevents : (s.interpreter.transcript (EngineStep.records s.setup.script)).map
      PlacedEvent.batch = delivered ++ last :: pending := by
    rw [← List.singleton_append, ← List.append_assoc, ← hlast, hpending, expected]
  obtain ⟨told, later, htranscript, -, hlater⟩ := List.map_eq_append_iff.1 hevents
  obtain ⟨e, rest, rfl, rfl, rfl⟩ := List.map_eq_cons_iff.1 hlater
  have hrest := Interpreter.rest_eq htranslates hapart htranscript
  have hskipped : s.skipped e.position =
      (rest.takeWhile fun e' => e'.position = e.position).map PlacedEvent.batch := by
    rw [skipped, hdrop, List.takeWhile_map]
    rfl
  show s.accepted ++ s.skipped e.position ++ s.replayed e.position = s.expected
  rw [List.append_assoc, hskipped, replayed, ← List.map_append, ← hrest, hpending]

variable [Store σ]

/-- **Resumption**: a session that starts again at the last position goes on with the very next
event, exactly if that event lies at another position. In all cases nothing is delivered twice, and
what is missing are the events at the last position that were not accepted. -/
theorem resumption_iff (setup : SessionSetup) (store : σ) (history : SchemaHistory)
    (actions : List SessionAction) (delivered : List Batch) (last : Batch) :
    let s := (ofSetup setup store history).run actions
    let records := EngineStep.records setup.script
    (∀ r ∈ records, ∃ events, s.interpreter.eventsOf r = .ok events) →
      LogRecord.Apart records → s.accepted = delivered ++ [last] →
      (s.accepted ++ s.replayed last.position = s.expected ↔
        ∀ b ∈ s.expected[s.accepted.length]?, b.position ≠ last.position) ∧
      s.accepted ++ s.skipped last.position ++ s.replayed last.position = s.expected := by
  intro s records htranslates hapart hlast
  have hsetup : s.setup = setup := setup_run _ actions
  have hinOrder : s.InOrder := inOrder_run setup store history actions
  -- Whether anything is missing is all that the two sides of the equivalence can differ in.
  have hwhole := accepted_append_skipped hinOrder (hsetup ▸ htranslates) (hsetup ▸ hapart) hlast
  refine ⟨?_, hwhole⟩
  rw [← skipped_eq_nil_iff, ← hwhole, List.append_assoc, List.append_cancel_left_eq]
  refine ⟨fun hsame => ?_, fun hnil => by rw [hnil, List.nil_append]⟩
  exact List.self_eq_append_left.1 hsame

end Session

/-! ### A statement with two changes -/

/-- A statement that adds two columns, and an insert behind it. -/
def LogRecord.alterAndInsert : List LogRecord :=
  [.altering "ALTER TABLE t ADD COLUMN x INT, ADD COLUMN y INT" 1, .inserted "t" 2]

private theorem apart_alterAndInsert : LogRecord.Apart LogRecord.alterAndInsert where
  partition := ⟨.single "server" (.string "shop"), by simp [LogRecord.alterAndInsert,
    LogRecord.altering, LogRecord.inserted]⟩
  offsets := by
    simp [LogRecord.alterAndInsert, LogRecord.altering, LogRecord.inserted, SortedMap.single]
  finite := by
    simp [LogRecord.alterAndInsert, LogRecord.altering, LogRecord.inserted, SortedMap.single,
      SortedMap.HasFiniteNumbers]

namespace Session

/-- A session of these records that ends between the two changes of the statement. -/
def cutInside : Session MemoryStore :=
  (ofSetup (.ofRecords LogRecord.alterAndInsert .willing) .empty .empty).run
    [.start, .prepare, .engine, .engine, .deliver, .deliver, .deliver]

/-- A session of these records that ends behind the statement. -/
def cutBehind : Session MemoryStore :=
  (ofSetup (.ofRecords LogRecord.alterAndInsert .willing) .empty .empty).run
    [.start, .prepare, .engine, .engine, .deliver, .deliver, .deliver, .engine, .deliver, .deliver,
      .deliver]

/-- The second column is not told, neither before the end nor after a start at the position of the
first. -/
theorem cutInside_misses_change :
    (∀ r ∈ LogRecord.alterAndInsert, ∃ events, cutInside.interpreter.eventsOf r = .ok events) ∧
      LogRecord.Apart LogRecord.alterAndInsert ∧
      ∃ last, cutInside.accepted = [last] ∧
        cutInside.accepted ++ cutInside.replayed last.position ≠ cutInside.expected := by
  have hone : cutInside.accepted.length = 1 := by decide +kernel
  obtain ⟨last, hlast⟩ := List.length_eq_one_iff.1 hone
  refine ⟨Interpreter.exists_eventsOf_of_all (by decide +kernel), apart_alterAndInsert, last,
    hlast, fun hsame => ?_⟩
  have hreplayed : ∀ b ∈ cutInside.accepted, (cutInside.replayed b.position).length = 1 := by
    decide +kernel
  have hexpected : cutInside.expected.length = 3 := by decide +kernel
  -- Three events are expected, one was accepted, and only the insert is read again.
  have hlength := congrArg List.length hsame
  rw [List.length_append, hone, hreplayed last (by simp [hlast]), hexpected] at hlength
  omega

/-- A session that ends behind the statement goes on with the insert. -/
theorem cutBehind_misses_nothing :
    ∃ first last, cutBehind.accepted = [first, last] ∧
      cutBehind.accepted ++ cutBehind.replayed last.position = cutBehind.expected ∧
      (cutBehind.replayed last.position).length = 1 := by
  have htwo : cutBehind.accepted.length = 2 := by decide +kernel
  obtain ⟨first, last, hlast⟩ := List.length_eq_two.1 htwo
  have hnext : ∀ b ∈ cutBehind.accepted, ∀ c ∈ cutBehind.expected[cutBehind.accepted.length]?,
      c.position ≠ b.position := by
    decide +kernel
  have hreplayed : ∀ b ∈ cutBehind.accepted, (cutBehind.replayed b.position).length = 1 := by
    decide +kernel
  have hmem : last ∈ cutBehind.accepted := by simp [hlast]
  refine ⟨first, last, hlast, ?_, hreplayed last hmem⟩
  exact (resumption_iff (.ofRecords LogRecord.alterAndInsert .willing) MemoryStore.empty .empty _
    [first] last (Interpreter.exists_eventsOf_of_all (by decide +kernel)) apart_alterAndInsert
    hlast).1.2 (hnext last hmem)

end Session

end ChangeFeed

import ChangeFeed.Proofs.History.Consistent
import ChangeFeed.Proofs.Interpretation
import ChangeFeed.Proofs.Session.Completion

/-!
# Sessions: Shutdown

A session leaves its history in the store. Two things make sure of it: a session that is cancelled
records nothing any more, and its timer writes once more after it was cancelled. So nothing comes
behind the last put, even if another one is under way when the session is cancelled.

## Main results

* `Kept.step`: the history, the timer and the store fit together in every step.
* `history_is_stored_at_end`: when a start returns the history is stored, with all that was recorded
  while the session ran.
-/

namespace ChangeFeed

open SchemaHistory (snapshotIn SparesSnapshot)

/-! ## What a record does to a history -/

namespace Interpreter

variable {t : Interpreter} {h : SchemaHistory} {found : Result (Option StatementLists)}

/-- A statement is recorded table by table, and each record keeps the history consistent. -/
theorem consistent_recordStatement (hh : h.Consistent found) (s : StatementRecord)
    (changes : List Schema.TableChange) : (recordStatement h s changes).Consistent found :=
  recordStatement_induction (P := fun k => k.Consistent found)
    (fun _ table hk => hk.record table s.ddl) hh changes

/-- So does a record, as it records a statement or nothing. -/
theorem consistent_interpret (hh : h.Consistent found) (r : LogRecord) :
    (t.interpret h r).2.Consistent found := by
  rw [interpret_snd]
  rcases t.events_snd h r with hsame | ⟨s, changes, -, -, hrecorded⟩
  · rw [hsame]
    exact hh
  · rw [hrecorded]
    exact consistent_recordStatement hh s changes

/-- To record something is not to write. -/
theorem writing_recordStatement (h : SchemaHistory) (s : StatementRecord)
    (changes : List Schema.TableChange) : (recordStatement h s changes).writing = h.writing :=
  recordStatement_induction (P := fun k => k.writing = h.writing)
    (fun k table hidle => (k.writing_record table s.ddl).trans hidle) rfl changes

/-- A record leaves the put under way alone. -/
theorem writing_interpret (t : Interpreter) (h : SchemaHistory) (r : LogRecord) :
    (t.interpret h r).2.writing = h.writing := by
  rw [interpret_snd]
  rcases t.events_snd h r with hsame | ⟨s, changes, -, -, hrecorded⟩
  · rw [hsame]
  · rw [hrecorded, writing_recordStatement]

/-- What was recorded before a record is still there after it. -/
theorem statements_subset_interpret (t : Interpreter) (h : SchemaHistory) (r : LogRecord)
    (table : String) : h.statements table ⊆ (t.interpret h r).2.statements table := by
  rw [interpret_snd]
  rcases t.events_snd h r with hsame | ⟨s, changes, -, -, hrecorded⟩
  · rw [hsame]
    exact fun _ hx => hx
  · rw [hrecorded]
    exact statements_subset_recordStatement h s changes table

end Interpreter

/-! ## Preparations -/

/-- The put that a timer waits for. -/
def TimerPhase.capture? : TimerPhase → Option HistoryCapture
  | .writing capture _ => some capture
  | .idle | .finished => none

namespace Session

section

variable {σ : Type} [Store σ] [LawfulStore σ]

/-- A registration is kept under keys of its own. -/
theorem sparesSnapshot_ensure (fresh : String) :
    SparesSnapshot (SessionRegistration.ensure fresh : Access σ SessionRegistration) := by
  refine .bind (.getText _) fun known => ?_
  cases known with
  | some name => exact .bind (.put (by decide) _) fun _ => .pure _
  | none => exact .bind (.put (by decide) _) fun _ => .bind (.put (by decide) _) fun _ => .pure _

/-- A preparation leaves the snapshot as it is, and the history absorbs it or stays as it is. -/
theorem preparation_kept (s : Session σ) :
    snapshotIn s.preparation.2.store = snapshotIn s.store ∧
      (s.preparation.2.history = s.history ∨
        ∃ found, snapshotIn s.store = .ok found ∧
          s.preparation.2.history = (s.history.absorb found).2) := by
  have hregister : SparesSnapshot (do
      MonadExcept.ofExcept s.setup.settings.check
      SessionRegistration.ensure s.setup.freshName : Access σ SessionRegistration) :=
    .bind (.ofExcept _) fun _ => sparesSnapshot_ensure _
  obtain ⟨registration, registered, hrun⟩ : ∃ (registration : Result SessionRegistration) (r : σ),
      (do
        MonadExcept.ofExcept s.setup.settings.check
        SessionRegistration.ensure s.setup.freshName : Access σ SessionRegistration).run s.store =
        (registration, r) := ⟨_, _, rfl⟩
  have hspared := hregister s.store
  rw [hrun] at hspared
  simp only [preparation, hrun]
  cases registration with
  | error e => exact ⟨hspared, .inl rfl⟩
  | ok registration =>
    -- The load leaves the snapshot as it is, too, and goes on with it unless it fails.
    have hfetched := SchemaHistory.snapshotIn_fetch registered
    rw [hspared] at hfetched
    simp only [SchemaHistory.load_run_eq]
    cases hfound : (SchemaHistory.fetch.run registered : Result (Option StatementLists) × σ).1 with
    | error e => exact ⟨hfetched, .inl rfl⟩
    | ok found =>
      refine ⟨hfetched, .inr ⟨found, ?_, rfl⟩⟩
      rw [← hspared]
      exact SchemaHistory.fetch_of_ok hfound

end

/-! ## The history of a session -/

variable {σ : Type} {s s' : Session σ}

/-- The engine reaches for the history only while the session runs, and then by a record. -/
theorem EngineMove.history_frame (h : EngineMove s s') :
    s'.stage = s.stage ∧ s'.runs = s.runs ∧ s'.store = s.store ∧ s'.timer = s.timer ∧
      (s.isCancelled = true → s'.isCancelled = true) ∧
      (s'.history = s.history ∨
        s.isCancelled = false ∧
          ∃ record, s'.history = (s.interpreter.interpret s.history record).2) := by
  -- Only two moves interpret a record, and both find the session running.
  cases h with
  | interpret _ _ hrunning hevents =>
    exact ⟨rfl, rfl, rfl, rfl, id, .inr ⟨hrunning, _, (congrArg Prod.snd hevents).symm⟩⟩
  | reject _ _ hrunning herror =>
    dsimp only
    split
    next =>
      exact ⟨rfl, rfl, rfl, rfl, fun _ => rfl,
        .inr ⟨hrunning, _, (congrArg Prod.snd herror).symm⟩⟩
    next =>
      exact ⟨rfl, rfl, rfl, rfl, fun _ => rfl,
        .inr ⟨hrunning, _, (congrArg Prod.snd herror).symm⟩⟩
  | stop => exact ⟨rfl, rfl, rfl, rfl, fun _ => rfl, .inl rfl⟩
  | fail =>
    dsimp only
    split
    next => exact ⟨rfl, rfl, rfl, rfl, fun _ => rfl, .inl rfl⟩
    next => exact ⟨rfl, rfl, rfl, rfl, fun _ => rfl, .inl rfl⟩
  | _ => exact ⟨rfl, rfl, rfl, rfl, id, .inl rfl⟩

/-- The loop leaves the history, its store and its timer alone. -/
theorem DeliveryMove.history_frame (h : DeliveryMove s s') :
    s'.stage = s.stage ∧ s'.runs = s.runs ∧ s'.store = s.store ∧ s'.timer = s.timer ∧
      (s.isCancelled = true → s'.isCancelled = true) ∧ s'.history = s.history := by
  -- The loop may cancel the session, which is all that it does to any of these.
  cases h with
  | accept =>
    dsimp only
    split
    next => exact ⟨rfl, rfl, rfl, rfl, fun _ => rfl, rfl⟩
    next => exact ⟨rfl, rfl, rfl, rfl, id, rfl⟩
  | reject => exact ⟨rfl, rfl, rfl, rfl, fun _ => rfl, rfl⟩
  | _ => exact ⟨rfl, rfl, rfl, rfl, id, rfl⟩

variable [Store σ] [LawfulStore σ]

/-- The history of a session, its timer, and its store fit together. -/
structure Kept (s : Session σ) : Prop where
  consistent : s.history.Consistent (snapshotIn s.store)
  writing : s.history.writing = s.timer.capture?
  /-- The last put takes everything along. -/
  last : ∀ capture, s.timer = .writing capture true →
    s.isCancelled = true ∧ capture.generation = s.history.generation
  done : s.timer = .finished → s.isCancelled = true ∧ s.history.isDirty = false
  early : s.stage = .fresh ∨ s.stage = .preparing → s.timer = .idle ∧ s.runs = []
  final : s.stage = .over → s.runs = [] ∨ s.timer = .finished

namespace Kept

/-- What neither the history nor the timer depends on may change. -/
theorem congr (h : s.Kept) (hhistory : s'.history = s.history) (hstore : s'.store = s.store)
    (htimer : s'.timer = s.timer) (hcancelled : s.isCancelled = true → s'.isCancelled = true)
    (hearly : s'.stage = .fresh ∨ s'.stage = .preparing → s'.timer = .idle ∧ s'.runs = [])
    (hfinal : s'.stage = .over → s'.runs = [] ∨ s'.timer = .finished) : s'.Kept where
  consistent := by
    rw [hhistory, hstore]
    exact h.consistent
  writing := by
    rw [hhistory, htimer]
    exact h.writing
  -- The last put is one that began after the cancellation, and nothing was recorded since.
  last := by
    intro capture hwriting
    obtain ⟨hc, hgeneration⟩ := h.last capture (htimer ▸ hwriting)
    exact ⟨hcancelled hc, hhistory ▸ hgeneration⟩
  done := by
    intro hfinished
    obtain ⟨hc, hclean⟩ := h.done (htimer ▸ hfinished)
    exact ⟨hcancelled hc, hhistory ▸ hclean⟩
  early := hearly
  final := hfinal

/-- A step within a stage. -/
theorem within (h : s.Kept) (hstage : s'.stage = s.stage) (hruns : s'.runs = s.runs)
    (hstore : s'.store = s.store) (htimer : s'.timer = s.timer)
    (hcancelled : s.isCancelled = true → s'.isCancelled = true)
    (hhistory : s'.history = s.history) : s'.Kept := by
  refine h.congr hhistory hstore htimer hcancelled ?_ ?_
  · rw [hstage, htimer, hruns]
    exact h.early
  · rw [hstage, htimer, hruns]
    exact h.final

/-- The history may change as long as the timer has not begun its last put. -/
theorem change (h : s.Kept) (hlast : ∀ capture, s.timer ≠ .writing capture true)
    (hdone : s.timer ≠ .finished) (htimer : s'.timer = s.timer)
    (hconsistent : s'.history.Consistent (snapshotIn s'.store))
    (hwriting : s'.history.writing = s.history.writing)
    (hearly : s'.stage = .fresh ∨ s'.stage = .preparing → s'.timer = .idle ∧ s'.runs = [])
    (hfinal : s'.stage = .over → s'.runs = [] ∨ s'.timer = .finished) : s'.Kept where
  consistent := hconsistent
  writing := by
    rw [hwriting, htimer]
    exact h.writing
  -- There is no last put under way that anything would have to hold of.
  last capture hput := absurd (htimer ▸ hput) (hlast capture)
  done hfinished := absurd (htimer ▸ hfinished) hdone
  early := hearly
  final := hfinal

/-- A preparation that changes the history merges what is in the store. -/
theorem prepared (h : s.Kept) (hstage : s.stage = .preparing)
    (htimer : s'.timer = s.timer) (hstore : s'.store = s.preparation.2.store)
    (hhistory : s'.history = s.preparation.2.history)
    (hearly : s'.stage = .fresh ∨ s'.stage = .preparing → s'.timer = .idle ∧ s'.runs = [])
    (hfinal : s'.stage = .over → s'.runs = [] ∨ s'.timer = .finished) : s'.Kept := by
  obtain ⟨hsnapshot, hsame | ⟨found, hfound, habsorbed⟩⟩ := preparation_kept s
  · -- Before the engine runs the timer is idle, so nothing is being written.
    refine h.change ?_ ?_ htimer ?_ ?_ hearly hfinal
    · simp [(h.early (.inr hstage)).1]
    · simp [(h.early (.inr hstage)).1]
    · rw [hhistory, hstore, hsnapshot, hsame]
      exact h.consistent
    · rw [hhistory, hsame]
  · have hconsistent := h.consistent
    rw [hfound] at hconsistent
    refine h.change ?_ ?_ htimer ?_ ?_ hearly hfinal
    · simp [(h.early (.inr hstage)).1]
    · simp [(h.early (.inr hstage)).1]
    · rw [hhistory, hstore, hsnapshot, habsorbed, hfound]
      exact hconsistent.absorb
    · rw [hhistory, habsorbed]
      exact SchemaHistory.writing_absorb s.history found

/-- The engine changes the history only by its records, and only while the session runs. -/
theorem engine (h : s.Kept) (hmove : EngineMove s s') : s'.Kept := by
  obtain ⟨hstage, hruns, hstore, htimer, hcancelled, hsame | ⟨hrunning, record, hhistory⟩⟩ :=
    hmove.history_frame
  · exact h.within hstage hruns hstore htimer hcancelled hsame
  · -- A session that runs has not begun its last put, so the record still comes in time.
    refine h.change ?_ ?_ htimer ?_ ?_ ?_ ?_
    · intro capture hput
      simp [(h.last capture hput).1] at hrunning
    · intro hfinished
      simp [(h.done hfinished).1] at hrunning
    · rw [hhistory, hstore]
      exact Interpreter.consistent_interpret h.consistent record
    · rw [hhistory]
      exact Interpreter.writing_interpret _ _ _
    · rw [hstage, htimer, hruns]
      exact h.early
    · rw [hstage, htimer, hruns]
      exact h.final

/-- An attempt of the timer begins a put if there is something to write, and may be its last. -/
theorem beginWrite (h : s.Kept) (hactive : s.isActive = true) (htimer : s.timer = .idle)
    {isLast : Bool} (hlast : isLast = true → s.isCancelled = true) :
    (s.beginWrite isLast).Kept := by
  have hnone : s.history.writing = none := by
    rw [h.writing, htimer]
    rfl
  have hnotEarly := not_early_of_isActive hactive
  have hnotOver : s.stage ≠ .over := by
    intro hover
    simp [isActive, hover] at hactive
  -- The timer is idle, so there is no put that this attempt would have to wait for.
  obtain ⟨hput, -⟩ | ⟨-, hsaved, hbegin⟩ | ⟨-, hdirty, hbegin⟩ := s.history.beginWrite_cases
  · exact absurd hnone hput
  · -- There is nothing to write, and a last attempt is the end of the timer.
    have hidle : s.beginWrite isLast =
        { s with timer := if isLast then .finished else .idle } := by
      rw [Session.beginWrite, hbegin]
    rw [hidle]
    exact {
      consistent := h.consistent
      writing := by
        rw [hnone]
        cases isLast <;> rfl
      last := by
        intro capture hput
        cases isLast <;> cases hput
      done := by
        intro hfinished
        cases isLast with
        | false => cases hfinished
        | true => exact ⟨hlast rfl, SchemaHistory.isDirty_eq_false_iff.2 hsaved⟩
      early := fun hearly => absurd hearly hnotEarly
      final := fun hover => absurd hover hnotOver }
  · -- What is taken along is all that there is, so that nothing is missing once it is written.
    have hwriting : s.beginWrite isLast =
        { s with
          history := { s.history with writing := some ⟨s.history.generation, s.history.tables⟩ }
          timer := .writing ⟨s.history.generation, s.history.tables⟩ isLast } := by
      rw [Session.beginWrite, hbegin]
    rw [hwriting]
    exact {
      consistent := h.consistent.begin hdirty
      writing := rfl
      last := by
        rintro capture ⟨⟩
        exact ⟨hlast rfl, rfl⟩
      done := by
        rintro ⟨⟩
      early := fun hearly => absurd hearly hnotEarly
      final := fun hover => absurd hover hnotOver }

/-- A put that succeeds leaves its tables in the store; if it was the last one they are those of the
history. -/
theorem endWrite (h : s.Kept) (hactive : s.isActive = true) {capture : HistoryCapture}
    {isLast : Bool} (htimer : s.timer = .writing capture isLast) {store : σ}
    (hput : (SchemaHistory.put capture).run s.store = (.ok (), store)) :
    Kept { s with
      store
      history := s.history.endWrite true
      timer := if isLast then .finished else .idle } := by
  have hwriting : s.history.writing = some capture := by
    rw [h.writing, htimer]
    rfl
  have hsnapshot : snapshotIn store = .ok (some capture.tables) := by
    have hkept := SchemaHistory.snapshotIn_put s.store capture
    rw [hput] at hkept
    exact hkept
  have hnotEarly := not_early_of_isActive hactive
  have hnotOver : s.stage ≠ .over := by
    intro hover
    simp [isActive, hover] at hactive
  exact {
    consistent := by
      rw [hsnapshot]
      exact h.consistent.endWrite_true hwriting
    writing := by
      rw [SchemaHistory.endWrite_of_writing hwriting]
      cases isLast <;> rfl
    last := by
      intro capture hput
      cases isLast <;> cases hput
    done := by
      intro hfinished
      cases isLast with
      | false => cases hfinished
      | true =>
        -- Since the last put began the history has not changed.
        obtain ⟨hcancelled, hgeneration⟩ := h.last capture htimer
        refine ⟨hcancelled, ?_⟩
        rw [SchemaHistory.isDirty_eq_false_iff, SchemaHistory.endWrite_of_writing hwriting]
        exact hgeneration
    early := fun hearly => absurd hearly hnotEarly
    final := fun hover => absurd hover hnotOver }

/-- **Preservation**: every step keeps the history, the timer and the store together, as long as no
put fails. -/
theorem step (h : s.Kept) {action : SessionAction} (hs : Step s action s')
    (hput : action = .write → ∀ capture isLast, s.timer = .writing capture isLast →
      ((SchemaHistory.put capture).run s.store : Result Unit × σ).1.isOk = true) : s'.Kept := by
  -- Most steps leave the history, its store and the timer alone; the others have a lemma of their
  -- own.
  cases hs with
  | startAgain => exact h.within rfl rfl rfl rfl id rfl
  | startStopped hstage =>
    exact h.congr rfl rfl rfl id (by simp [finish]) fun _ => .inl (h.early (.inl hstage)).2
  | start hstage => exact h.congr rfl rfl rfl id (fun _ => h.early (.inl hstage)) (by simp)
  | stop => exact h.within rfl rfl rfl rfl (fun _ => rfl) rfl
  | prepare hstage hprepared =>
    exact h.prepared hstage rfl (by rw [hprepared]; rfl) (by rw [hprepared]; rfl)
      (by simp [note]) (by simp [note])
  | prepareFail hstage hprepared =>
    exact h.prepared hstage rfl (by rw [hprepared]; rfl) (by rw [hprepared]; rfl)
      (by simp [finish]) fun _ => .inl (h.early (.inr hstage)).2
  | drain => exact h.congr rfl rfl rfl id (by simp) (by simp)
  | close =>
    exact h.congr rfl rfl rfl (fun _ => rfl) (by simp [Session.cancel, note])
      (by simp [Session.cancel, note])
  | finish _ htimer =>
    exact h.congr rfl rfl rfl id (by simp [Session.finish]) fun _ => .inr htimer
  | engine _ hmove => exact h.engine hmove
  | leave => exact h.within rfl rfl rfl rfl id rfl
  | deliver _ hmove =>
    obtain ⟨hstage, hruns, hstore, htimer, hcancelled, hhistory⟩ := hmove.history_frame
    exact h.within hstage hruns hstore htimer hcancelled hhistory
  | tick hactive htimer => exact h.beginWrite hactive htimer (by simp)
  | lastWrite hactive htimer hcancelled =>
    exact h.beginWrite hactive htimer fun _ => hcancelled
  | @endWrite capture isLast result store hactive htimer hrun =>
    have hok := hput rfl capture isLast htimer
    rw [hrun] at hok
    cases result with
    | error e => cases hok  -- no put fails
    | ok _ => exact h.endWrite hactive htimer hrun
  | closeEngine => exact h.within rfl rfl rfl rfl id rfl

end Kept

/-! ## Puts that succeed -/

/-- No put of a run fails. -/
def PutsSucceed (s : Session σ) : List SessionAction → Prop
  | [] => True
  | action :: actions =>
    (action = .write → ∀ capture isLast, s.timer = .writing capture isLast →
      ((SchemaHistory.put capture).run s.store : Result Unit × σ).1.isOk = true) ∧
    PutsSucceed ((s.step? action).getD s) actions

theorem Kept.run (h : s.Kept) {actions : List SessionAction} (hputs : s.PutsSucceed actions) :
    (s.run actions).Kept := by
  -- The condition on the puts is used up with the actions: that of the first, and those of the
  -- others.
  induction actions generalizing s with
  | nil => exact h
  | cons action actions ih =>
    obtain ⟨hput, hlater⟩ := hputs
    rw [run_cons]
    refine ih ?_ hlater
    cases hs : s.step? action with
    | none => exact h
    | some s' => exact h.step (.of_step? hs) hput

theorem kept_ofSetup (setup : SessionSetup) {store : σ} {history : SchemaHistory}
    (hhistory : history.Consistent (snapshotIn store)) (hidle : history.writing = none) :
    (ofSetup setup store history).Kept where
  consistent := hhistory
  writing := hidle
  last := by simp [ofSetup]
  done := by simp [ofSetup]
  early _ := ⟨rfl, rfl⟩
  final := by simp [ofSetup]

/-! ## What was recorded -/

omit [Store σ] [LawfulStore σ] in
theorem statements_beginWrite (s : Session σ) (isLast : Bool) (table : String) :
    (s.beginWrite isLast).history.statements table = s.history.statements table := by
  have htables := s.history.tables_beginWrite
  unfold Session.beginWrite
  -- Whether a put begins or not, the tables are the same.
  split
  next hbegin =>
    rw [hbegin] at htables
    exact congrArg (StatementLists.statements · table) htables
  next hbegin =>
    rw [hbegin] at htables
    exact congrArg (StatementLists.statements · table) htables

/-- No step forgets a statement. -/
theorem Step.statements_subset {action : SessionAction} (hs : Step s action s') (table : String) :
    s.history.statements table ⊆ s'.history.statements table := by
  have hprepared : s.history.statements table ⊆ s.preparation.2.history.statements table := by
    obtain ⟨-, hsame | ⟨found, -, habsorbed⟩⟩ := preparation_kept s
    · rw [hsame]
      exact fun _ hx => hx
    · rw [habsorbed]
      exact SchemaHistory.statements_subset_absorb s.history found table
  -- Preparations, records and the timer reach for the history, in this order.
  cases hs with
  | prepare _ hprepare | prepareFail _ hprepare =>
    rw [hprepare] at hprepared
    exact hprepared
  | engine _ hmove =>
    obtain ⟨-, -, -, -, -, hsame | ⟨-, record, hhistory⟩⟩ := hmove.history_frame
    · rw [hsame]
      exact fun _ hx => hx
    · rw [hhistory]
      exact Interpreter.statements_subset_interpret _ _ record table
  | deliver _ hmove =>
    rw [hmove.history_frame.2.2.2.2.2]
    exact fun _ hx => hx
  | tick | lastWrite =>
    rw [statements_beginWrite]
    exact fun _ hx => hx
  | endWrite =>
    show _ ⊆ StatementLists.statements (s.history.endWrite _).tables table
    rw [SchemaHistory.tables_endWrite]
    exact fun _ hx => hx
  | _ => exact fun _ hx => hx

theorem statements_subset_run (s : Session σ) (actions : List SessionAction) (table : String) :
    s.history.statements table ⊆ (s.run actions).history.statements table :=
  run_induction (P := fun s' => s.history.statements table ⊆ s'.history.statements table) actions
    (fun _ _ _ _ h hs _ hx => hs.statements_subset table (h hx)) fun _ hx => hx

omit [Store σ] [LawfulStore σ] in
/-- The next step of the engine hands the session a statement that changes a table. -/
def isToldNext (s : Session σ) (table ddl : String) : Bool :=
  match s.stage, s.isCancelled, s.engine, s.script with
  | .reading, false, .ready, .record record _ :: _ =>
    match record.content with
    | .statement statement =>
      match s.interpreter.changes statement with
      | .ok changes => decide (statement.ddl = ddl) && changes.any (·.table = table)
      | .error _ => false
    | _ => false
  | _, _, _, _ => false

omit [Store σ] [LawfulStore σ] in
/-- A session that runs leaves the history as its interpreter does, even if the record fails. -/
theorem history_receive (hrunning : s.isCancelled = false) (record : LogRecord)
    (isLenient : Bool) :
    (s.receive record isLenient).history = (s.interpreter.interpret s.history record).2 := by
  rw [receive, if_neg (by simp [hrunning])]
  -- The record becomes events or is rejected, and either way the history was told of it first.
  split
  next hevents => rw [hevents]
  next herror =>
    rw [herror]
    dsimp only
    split <;> rfl

omit [LawfulStore σ] in
/-- A statement that the session is told is recorded in the same step. -/
theorem mem_statements_of_isToldNext {table ddl : String} (h : s.isToldNext table ddl = true) :
    ddl ∈ ((s.step? .engine).getD s).history.statements table := by
  -- What is told next is a statement that the engine has at hand, and that makes a change of the
  -- table.
  unfold isToldNext at h
  split at h
  next record isLenient script hstage hrunning hengine hscript =>
    split at h
    next statement hcontent =>
      split at h
      next changes hchanges =>
        rw [Bool.and_eq_true, decide_eq_true_iff, List.any_eq_true] at h
        obtain ⟨rfl, change, hmem, htable⟩ := h
        obtain rfl : change.table = table := by simpa using htable
        have hstep : s.step? .engine = some ({ s with script }.receive record isLenient) := by
          rw [step?, if_pos hstage, engine?, hengine, hscript]
          rfl
        have hhistory : ({ s with script }.receive record isLenient).history =
            (s.interpreter.interpret s.history record).2 :=
          history_receive (s := { s with script }) hrunning record isLenient
        rw [hstep, Option.getD_some, hhistory, Interpreter.interpret_snd,
          Interpreter.events_snd_of_statement hcontent hchanges]
        exact Interpreter.mem_statements_recordStatement _ statement changes hmem
      next => cases h
    next => cases h
  next => cases h

/-! ## The end -/

/-- **Nothing is lost at the end**: whatever the engine hands over, however the session comes to its
end, and in whatever order its parties go on, when the start returns of a session whose engine ran
the history is clean; if it has tables the store holds exactly them; and every statement that the
session was told before it was cancelled is among them. This asks for a history that nobody else
uses and for puts that do not fail. -/
theorem history_is_stored_at_end (setup : SessionSetup) (store : σ) (history : SchemaHistory)
    (actions : List SessionAction) (hhistory : history.Consistent (snapshotIn store))
    (hidle : history.writing = none)
    (hputs : (ofSetup setup store history).PutsSucceed actions) :
    let s := (ofSetup setup store history).run actions
    s.stage = .over → s.runs ≠ [] →
      s.history.isDirty = false ∧
      (s.history.tables ≠ .empty → snapshotIn s.store = .ok (some s.history.tables)) ∧
      ∀ before after, actions = before ++ .engine :: after →
        ∀ table ddl, ((ofSetup setup store history).run before).isToldNext table ddl = true →
          ddl ∈ s.history.statements table := by
  intro s hover hruns
  have hkept : s.Kept := (kept_ofSetup setup hhistory hidle).run hputs
  have hfinished : s.timer = .finished := (hkept.final hover).resolve_left hruns
  obtain ⟨-, hclean⟩ := hkept.done hfinished
  refine ⟨hclean, hkept.consistent.isStored hclean, ?_⟩
  intro before after hactions table ddl htold
  -- The step that records the statement cuts the run in two.
  have hsplit : s = (((((ofSetup setup store history).run before).step? .engine).getD
      ((ofSetup setup store history).run before)).run after) := by
    show (ofSetup setup store history).run actions = _
    rw [hactions, run, List.foldl_append]
    rfl
  rw [hsplit]
  exact statements_subset_run _ after table (mem_statements_of_isToldNext htold)

/-! ### A session that is stopped during a put -/

/-- Puts in memory never fail. -/
theorem putsSucceed_memory (s : Session MemoryStore) (actions : List SessionAction) :
    s.PutsSucceed actions := by
  induction actions generalizing s with
  | nil => trivial
  | cons action actions ih => exact ⟨fun _ _ _ _ => rfl, ih _⟩

/-- An engine that hands over two statements. -/
def createAndAlter : SessionSetup :=
  .ofRecords [.altering "CREATE TABLE t (a INT)" 1, .altering "ALTER TABLE t ADD COLUMN b INT" 2]
    .willing

/-- The timer begins to write the first statement. -/
def untilPut : List SessionAction :=
  [.start, .prepare, .engine, .engine, .engine, .engine, .tick]

/-- The session is stopped, and everybody comes to an end. -/
def fromStop : List SessionAction :=
  [.stop, .write, .write, .write, .close, .engine, .leave, .proceed, .deliver, .proceed, .proceed]

/-- The second statement comes right before the stop, and both are in the store at the end. -/
theorem stoppedDuringPut_is_stored :
    ∃ s, s = (ofSetup createAndAlter MemoryStore.empty .empty).run
        (untilPut ++ .engine :: fromStop) ∧
      "ALTER TABLE t ADD COLUMN b INT" ∈ s.history.statements "t" ∧
      s.history.isDirty = false ∧ snapshotIn s.store = .ok (some s.history.tables) ∧
      s.history.tables =
        .single "t" ["CREATE TABLE t (a INT)", "ALTER TABLE t ADD COLUMN b INT"] := by
  have htold : ((ofSetup createAndAlter MemoryStore.empty .empty).run untilPut).isToldNext "t"
      "ALTER TABLE t ADD COLUMN b INT" = true := by
    decide +kernel
  have hstage : ((ofSetup createAndAlter MemoryStore.empty .empty).run
      (untilPut ++ .engine :: fromStop)).stage = .over := by
    decide +kernel
  have hruns : ((ofSetup createAndAlter MemoryStore.empty .empty).run
      (untilPut ++ .engine :: fromStop)).runs.length = 1 := by
    decide +kernel
  have htables : ((ofSetup createAndAlter MemoryStore.empty .empty).run
      (untilPut ++ .engine :: fromStop)).history.tables =
        .single "t" ["CREATE TABLE t (a INT)", "ALTER TABLE t ADD COLUMN b INT"] := by
    decide +kernel
  obtain ⟨hclean, hstored, hrecorded⟩ := history_is_stored_at_end createAndAlter
    MemoryStore.empty .empty (untilPut ++ .engine :: fromStop) (.empty _) rfl
    (putsSucceed_memory _ _) hstage (List.ne_nil_of_length_eq_add_one hruns)
  -- The statement was told while the put was under way, and before the session was stopped.
  refine ⟨_, rfl, hrecorded untilPut fromStop rfl _ _ htold, hclean, hstored ?_, htables⟩
  rw [htables]
  decide

end Session

end ChangeFeed

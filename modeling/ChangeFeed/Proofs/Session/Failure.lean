import ChangeFeed.Proofs.Interpretation.Outcome
import ChangeFeed.Proofs.Session.Lifecycle
import ChangeFeed.Proofs.Session.Remaining

/-!
# Sessions: Failures

A session can fail in its engine, in the records that the engine hands over, and in the consumer,
and one failure is often reported a second time by whoever it was told to. The first failure is the
result of the run, just as it arose. It cancels the session, and whatever fails afterwards is
dropped.

What fails in a run is told here by what the parties come across, without a look at what the session
makes of it. An engine that reports a rejected record only after others went on is one that
overlooks the rejection and has a failure in its script.

## Main results

* `failure_run`: the session keeps the first failure of every run.
* `Step.quiet`: a session that failed takes up no record and hands nothing over any more.
* `Answered.step`: the first start is answered with the failure, if there is one.
* `first_failure_is_returned`: what a start returns, in every run.
-/

namespace ChangeFeed

/-- The consumer is handed something, or a record is rejected. -/
def SessionEntry.isWork : SessionEntry → Bool
  | .accept _ | .rejected _ => true
  | .started | .ended | .malformed _ | .stopped _ | .observed _ | .reported _ => false

namespace Session

variable {σ : Type} {s s' : Session σ}

/-! ## What fails -/

/-- What fails when the engine does the next step of its script, in the order in which it comes up.
An engine that does not overlook the rejection of a record reports it as a failure of its own. -/
def engineFailures (s : Session σ) : List Error :=
  match s.engine, s.script with
  | .ready, .record record isLenient :: _ =>
    if s.isCancelled then []
    else
      match (s.interpreter.interpret s.history record).1 with
      | .ok _ => []
      | .error e =>
        if isLenient then [e]
        else [e, engineFailure "Record handling failed" (some (.engine e.message))]
  | .ready, .fail message cause _ :: _ => [engineFailure message cause]
  | _, _ => []

/-- What fails when the consumer answers. -/
def consumerFailures (s : Session σ) : List Error :=
  match s.delivery with
  | .handing _ =>
    match s.setup.consumer.answer s.accepted.length with
    | .ok _ => []
    | .error e => [e]
  | .waiting | .holding _ | .finished _ => []

/-- What fails in an action, in order. -/
def failuresAt (s : Session σ) : SessionAction → List Error
  | .engine => if s.stage = .reading then s.engineFailures else []
  | .deliver => if s.isActive then s.consumerFailures else []
  | _ => []

/-- What can fail first in a step, told by what the parties come across: a record that is no good, a
failure that the engine reports, and an answer of the consumer. -/
inductive Fails (s : Session σ) : SessionAction → Error → Prop where
  | record {record : LogRecord} {isLenient : Bool} {script : List EngineStep} {e : Error}
      (hstage : s.stage = .reading) (hengine : s.engine = .ready)
      (hscript : s.script = .record record isLenient :: script) (hrunning : s.isCancelled = false)
      (hfails : record.LacksImage e ∨ s.interpreter.Rejects record e ∨
        s.interpreter.Misplaces record e) : Fails s .engine e
  | report {message : String} {cause : Option Error} {goesOn : Bool} {script : List EngineStep}
      (hstage : s.stage = .reading) (hengine : s.engine = .ready)
      (hscript : s.script = .fail message cause goesOn :: script) :
      Fails s .engine (engineFailure message cause)
  | answer {item : PlacedEvent} {e : Error} (hactive : s.isActive = true)
      (hhanding : s.delivery = .handing item)
      (hanswer : s.setup.consumer.answer s.accepted.length = .error e) : Fails s .deliver e

/-- What fails is the first of the failures of that action. -/
theorem Fails.head?_failuresAt {action : SessionAction} {e : Error} (h : s.Fails action e) :
    (s.failuresAt action).head? = some e := by
  cases h with
  | @record record isLenient _ _ hstage hengine hscript hrunning hfails =>
    -- A record fails with what its interpretation fails with.
    have herror := (Interpreter.interpret_eq_error_iff s.history).2 hfails
    cases isLenient <;>
      simp [failuresAt, engineFailures, hstage, hengine, hscript, hrunning, herror]
  | report hstage hengine hscript => simp [failuresAt, engineFailures, hstage, hengine, hscript]
  | answer hactive hhanding hanswer =>
    simp [failuresAt, consumerFailures, hactive, hhanding, hanswer]

/-- Nothing else fails first. -/
theorem fails_of_head?_failuresAt {action : SessionAction} {e : Error}
    (h : (s.failuresAt action).head? = some e) : s.Fails action e := by
  -- Only the engine and the loop can fail, each in the state that the failure names.
  cases action with
  | engine =>
    rw [failuresAt] at h
    split at h
    next hstage =>
      unfold engineFailures at h
      split at h
      next record isLenient script hengine hscript =>
        split at h
        next => cases h
        next hrunning =>
          split at h
          next => cases h
          next herror =>
            obtain rfl : _ = e := by
              split at h <;> exact Option.some.inj h
            exact .record hstage hengine hscript (by simpa using hrunning)
              ((Interpreter.interpret_eq_error_iff s.history).1 herror)
      next hengine hscript =>
        obtain rfl := Option.some.inj h
        exact .report hstage hengine hscript
      next => cases h
    next => cases h
  | deliver =>
    rw [failuresAt] at h
    split at h
    next hactive =>
      unfold consumerFailures at h
      split at h
      next item hhanding =>
        split at h
        next => cases h
        next hanswer =>
          obtain rfl := Option.some.inj h
          exact .answer hactive hhanding hanswer
      all_goals cases h
    next => cases h
  | _ => cases h

/-- What fails in a run, the first failure first. -/
def failures [Store σ] (s : Session σ) : List SessionAction → List Error
  | [] => []
  | action :: actions => s.failuresAt action ++ ((s.step? action).getD s).failures actions

/-! ## The first failure -/

/-- The failure of the engine is kept if it is the first one. -/
theorem EngineMove.failure_eq (h : EngineMove s s') :
    s'.failure = s.failure.or s.engineFailures.head? := by
  -- One case for each move: those that fail nothing leave the slot as it is.
  cases h with
  | complete hengine hscript => simp [engineFailures, note, hengine, hscript]
  | ignore hengine hscript hcancelled => simp [engineFailures, hengine, hscript, hcancelled]
  | interpret hengine hscript hrunning hevents =>
    simp [engineFailures, hengine, hscript, hrunning, hevents]
  | @reject record isLenient _ _ _ hengine hscript hrunning herror =>
    -- The report of the rejection finds the slot taken.
    cases isLenient <;>
      simp [engineFailures, Session.fail, note, hengine, hscript, hrunning, herror]
  | malformed hengine hscript | stop hengine hscript | observe hengine hscript =>
    simp [engineFailures, note, cancel, hengine, hscript]
  | awaitClose hengine hscript | sleep hengine hscript =>
    simp [engineFailures, hengine, hscript]
  | fail hengine hscript =>
    dsimp only
    split <;> simp [engineFailures, Session.fail, note, hengine, hscript]
  | pause hengine | drop hengine | offer hengine | resume hengine =>
    simp [engineFailures, hengine]

/-- So is that of the consumer. -/
theorem DeliveryMove.failure_eq (h : DeliveryMove s s') :
    s'.failure = s.failure.or s.consumerFailures.head? := by
  -- Only the answer of the consumer can be a failure.
  cases h with
  | take hwaiting => simp [consumerFailures, hwaiting]
  | hand hholding => simp [consumerFailures, note, hholding]
  | finish hend =>
    obtain hwaiting | ⟨item, hholding⟩ := waiting_or_holding_of_end hend
    · simp [consumerFailures, hwaiting]
    · simp [consumerFailures, hholding]
  | accept hhanding hanswer =>
    dsimp only
    split <;> simp [consumerFailures, cancel, hhanding, hanswer]
  | reject hhanding hanswer => simp [consumerFailures, Session.fail, hhanding, hanswer]

/-- The timer fails nothing. -/
theorem failure_beginWrite (s : Session σ) (isLast : Bool) :
    (s.beginWrite isLast).failure = s.failure := by
  obtain ⟨history, timer, heq⟩ := beginWrite_eq s isLast
  rw [heq]

variable [Store σ]

/-- **One step**: the session keeps the failure that it has, or else the first one of the step. -/
theorem Step.failure_eq {action : SessionAction} (h : Step s action s') :
    s'.failure = s.failure.or (s.failuresAt action).head? := by
  cases h with
  | engine hstage hmove => rw [failuresAt, if_pos hstage, hmove.failure_eq]
  | deliver hactive hmove => rw [failuresAt, if_pos hactive, hmove.failure_eq]
  | tick | lastWrite => rw [failure_beginWrite]; simp [failuresAt]
  | _ => simp [failuresAt, Session.finish, cancel, note]

/-- Where a party cannot go on nothing fails. -/
theorem failuresAt_of_step?_eq_none {action : SessionAction} (h : s.step? action = none) :
    s.failuresAt action = [] := by
  -- An engine can always hand a record over or report a failure, and the loop can always take an
  -- answer, so a party that cannot go on is not about to fail.
  cases action with
  | engine =>
    rw [failuresAt]
    split
    next hstage =>
      simp only [step?, if_pos hstage] at h
      unfold engineFailures
      split
      next hengine hscript => simp [engine?, follow?, hengine, hscript] at h
      next hengine hscript => simp [engine?, follow?, hengine, hscript] at h
      next => rfl
    next => rfl
  | deliver =>
    rw [failuresAt]
    split
    next hactive =>
      simp only [step?, if_pos hactive] at h
      unfold consumerFailures
      split
      next hhanding => simp [deliver?, hhanding] at h
      all_goals rfl
    next => rfl
  | _ => rfl

/-- **Runs**: the session keeps the first failure. -/
theorem failure_run (s : Session σ) (actions : List SessionAction) :
    (s.run actions).failure = s.failure.or (s.failures actions).head? := by
  induction actions generalizing s with
  | nil => simp [run, failures]
  | cons action actions ih =>
    rw [run_cons, ih, failures, List.head?_append, ← Option.or_assoc]
    congr 1
    -- What is left is the first step, which a party may not be able to take.
    cases hs : s.step? action with
    | none => simp [failuresAt_of_step?_eq_none hs]
    | some s' => exact (Step.of_step? hs).failure_eq

/-- The failure of a run arose in one of its steps, and nothing had failed before. -/
theorem failure_run_eq_some_iff (hnone : s.failure = none) {actions : List SessionAction}
    {e : Error} :
    (s.run actions).failure = some e ↔
      ∃ before action later, actions = before ++ action :: later ∧
        (s.run before).failure = none ∧ (s.run before).Fails action e := by
  constructor
  · intro hfailed
    induction actions generalizing s with
    | nil => simp [run, hnone] at hfailed
    | cons action actions ih =>
      -- Either the first step fails, and then nothing later counts, or the failure comes later.
      cases hfirst : (s.failuresAt action).head? with
      | some e' =>
        rw [failure_run, hnone, failures, List.head?_append, hfirst] at hfailed
        obtain rfl : e' = e := Option.some.inj hfailed
        exact ⟨[], action, actions, rfl, hnone, fails_of_head?_failuresAt hfirst⟩
      | none =>
        have hnext : (s.run [action]).failure = none := by
          rw [failure_run, hnone, failures, List.head?_append, hfirst]
          rfl
        obtain ⟨before, next, later, rfl, hbefore, hfails⟩ := ih hnext hfailed
        exact ⟨action :: before, next, later, rfl, hbefore, hfails⟩
  · rintro ⟨before, action, later, rfl, hbefore, hfails⟩
    have hrun : s.run (before ++ action :: later) = (s.run before).run (action :: later) :=
      List.foldl_append
    rw [hrun, failure_run, hbefore, failures, List.head?_append, hfails.head?_failuresAt]
    rfl

/-! ## After a failure -/

/-- A session that failed runs its engine or did, and it is cancelled. -/
structure Marked (s : Session σ) : Prop where
  isCancelled : s.failure ≠ none → s.isCancelled = true
  started : s.failure ≠ none → s.stage ≠ .fresh ∧ s.stage ≠ .preparing

omit [Store σ] in

/-- The engine cancels the session with the first failure that it brings up. -/
theorem EngineMove.isCancelled_of_failure (h : EngineMove s s')
    (hs : s.failure ≠ none → s.isCancelled = true) : s'.failure ≠ none → s'.isCancelled = true := by
  cases h with
  | reject | fail =>
    dsimp only
    split <;> exact fun _ => rfl
  | stop => exact fun _ => rfl
  | _ => exact hs

omit [Store σ] in

/-- So does the loop. -/
theorem DeliveryMove.isCancelled_of_failure (h : DeliveryMove s s')
    (hs : s.failure ≠ none → s.isCancelled = true) : s'.failure ≠ none → s'.isCancelled = true := by
  -- What the consumer does to the session, it does with or without a failure.
  cases h with
  | accept =>
    dsimp only
    split
    next => exact fun _ => rfl
    next => exact hs
  | reject => exact fun _ => rfl
  | _ => exact hs

namespace Marked

/-- A session that failed is cancelled, and was started before. -/
theorem step (h : s.Marked) {action : SessionAction} (hs : Step s action s') : s'.Marked := by
  cases hs with
  | startStopped hstage | start hstage =>
    exact ⟨h.isCancelled, fun hfailure => absurd hstage (h.started hfailure).1⟩
  | stop => exact ⟨fun _ => rfl, h.started⟩
  | prepare | drain | finish => exact ⟨h.isCancelled, fun _ => ⟨nofun, nofun⟩⟩
  | prepareFail | close => exact ⟨fun _ => rfl, fun _ => ⟨nofun, nofun⟩⟩
  | engine hstage hmove =>
    refine ⟨hmove.isCancelled_of_failure h.isCancelled, fun _ => ?_⟩
    rw [hmove.frame.1, hstage]
    exact ⟨nofun, nofun⟩
  | deliver hactive hmove =>
    refine ⟨hmove.isCancelled_of_failure h.isCancelled, fun _ => ?_⟩
    rw [hmove.frame.1]
    exact not_or.1 (not_early_of_isActive hactive)
  -- The timer goes on whether the session failed or not, and changes neither.
  | tick | lastWrite =>
    obtain ⟨history, timer, heq⟩ := beginWrite_eq s _
    rw [heq]
    exact ⟨h.isCancelled, h.started⟩
  | _ => exact ⟨h.isCancelled, h.started⟩

end Marked

omit [Store σ] in
theorem filter_note (s : Session σ) {entry : SessionEntry} (h : entry.isWork = false) :
    (s.note entry).log.filter (·.isWork) = s.log.filter (·.isWork) := by
  simp [note, h]

omit [Store σ] in
/-- The engine of a session that is cancelled brings up no events, and none of its records is
rejected. -/
theorem EngineMove.quiet_frame (h : EngineMove s s') (hc : s.isCancelled = true) :
    (∀ events, s'.engine = .offering events → s.engine = .offering events) ∧
      s'.log.filter (·.isWork) = s.log.filter (·.isWork) := by
  -- A record is interpreted, and events are offered, only while the session runs.
  cases h with
  | interpret _ _ hrunning | reject _ _ hrunning | offer _ hrunning =>
    rw [hc] at hrunning
    cases hrunning
  | complete => exact ⟨nofun, filter_note s rfl⟩
  | malformed | observe | stop => exact ⟨fun _ => id, filter_note s rfl⟩
  | awaitClose => exact ⟨fun _ => id, rfl⟩
  -- The failure is reported, and the report is not part of the work.
  | fail =>
    dsimp only
    split
    next => exact ⟨fun _ => id, filter_note s rfl⟩
    next => exact ⟨nofun, filter_note s rfl⟩
  | ignore | sleep | pause | drop | resume => exact ⟨nofun, rfl⟩

omit [Store σ] in
/-- The loop of a session that is cancelled hands nothing over any more. -/
theorem DeliveryMove.quiet_frame (h : DeliveryMove s s') (hc : s.isCancelled = true) :
    s'.engine = s.engine ∧ s'.log = s.log := by
  -- To take or to hand over an item the session would have to run.
  cases h with
  | take _ hrunning | hand _ hrunning =>
    rw [hc] at hrunning
    cases hrunning
  | accept =>
    dsimp only
    split <;> exact ⟨rfl, rfl⟩
  | _ => exact ⟨rfl, rfl⟩

/-- Compared with what it was, a session stays cancelled and keeps its failure. Since then no record
has become events or was rejected, no statement was recorded, and nothing was handed over. -/
structure Quiet (e s : Session σ) : Prop where
  isCancelled : s.isCancelled = true
  failure : s.failure = e.failure
  offering : ∀ events, s.engine = .offering events → e.engine = .offering events
  entries : s.log.filter (·.isWork) = e.log.filter (·.isWork)
  statements : ∀ table, s.history.statements table = e.history.statements table

namespace Quiet

variable {e : Session σ}

omit [Store σ] in
theorem refl (h : e.isCancelled = true) : e.Quiet e := ⟨h, rfl, fun _ => id, rfl, fun _ => rfl⟩

omit [Store σ] in

/-- Nothing happens from one session to the next, and so on. -/
theorem trans (h : e.Quiet s) (hs : s.Quiet s') : e.Quiet s' :=
  ⟨hs.isCancelled, hs.failure.trans h.failure,
    fun events hoffering => h.offering events (hs.offering events hoffering),
    hs.entries.trans h.entries, fun table => (hs.statements table).trans (h.statements table)⟩

end Quiet

/-- **One step**: a session that failed keeps quiet. -/
theorem Step.quiet {action : SessionAction} (hs : Step s action s') (h : s.Marked)
    (hfailed : s.failure ≠ none) : s.Quiet s' := by
  have hc : s.isCancelled = true := h.isCancelled hfailed
  have hcancelled : s'.isCancelled = true := hs.isCancelled hc
  have hfailure : s'.failure = s.failure := by
    rw [hs.failure_eq]
    exact Option.or_of_isSome (Option.isSome_iff_ne_none.2 hfailed)
  cases hs with
  | startStopped hstage | start hstage => exact absurd hstage (h.started hfailed).1
  | prepare hstage | prepareFail hstage => exact absurd hstage (h.started hfailed).2
  | engine _ hmove =>
    obtain ⟨hoffering, hlog⟩ := hmove.quiet_frame hc
    obtain ⟨-, -, -, -, -, hsame | ⟨hrunning, -⟩⟩ := hmove.history_frame
    · exact ⟨hcancelled, hfailure, hoffering, hlog, fun _ => by rw [hsame]⟩
    · rw [hc] at hrunning
      cases hrunning
  | deliver _ hmove =>
    obtain ⟨hengine, hlog⟩ := hmove.quiet_frame hc
    have hsame := hmove.history_frame.2.2.2.2.2
    exact ⟨hcancelled, hfailure, fun _ => (hengine ▸ ·), by rw [hlog], fun _ => by rw [hsame]⟩
  | close => exact ⟨hcancelled, hfailure, fun _ => id, filter_note s rfl, fun _ => rfl⟩
  | leave => exact ⟨hcancelled, hfailure, nofun, filter_note s rfl, fun _ => rfl⟩
  | tick | lastWrite =>
    -- The history only learns that it is being written.
    refine ⟨hcancelled, hfailure, fun _ => ?_, ?_, statements_beginWrite s _⟩
    · obtain ⟨history, timer, heq⟩ := beginWrite_eq s _
      rw [heq]
      exact id
    · rw [(s.beginWrite_frame _).2.2.2.1]
  | endWrite =>
    refine ⟨hcancelled, hfailure, fun _ => id, rfl, fun table => ?_⟩
    show StatementLists.statements (s.history.endWrite _).tables table = _
    rw [SchemaHistory.tables_endWrite]
    rfl
  | _ => exact ⟨hcancelled, hfailure, fun _ => id, rfl, fun _ => rfl⟩

/-- From a failure on nothing happens any more. -/
theorem Marked.quiet_run (h : s.Marked) (hfailed : s.failure ≠ none) (later : List SessionAction) :
    s.Quiet (s.run later) := by
  -- That the session failed is part of what is kept, for a session that runs does not keep quiet.
  have hrun := run_induction (P := fun t => s.Quiet t ∧ t.Marked) later
    (fun t t' _ _ ht hs =>
      ⟨ht.1.trans (hs.quiet ht.2 (ht.1.failure ▸ hfailed)), ht.2.step hs⟩)
    ⟨.refl (h.isCancelled hfailed), h⟩
  exact hrun.1

/-! ## What the first start returns -/

omit [Store σ] in
/-- The answer to a start that is not the first one. -/
def again : Result Unit := .error (.invalidState "stream session already started")

/-- Every start that was answered so far is one too many, except for the first one, whose answer is
the failure of the run. -/
structure Answered (s : Session σ) : Prop where
  pending : s.isPending = true → ∃ n, s.results = List.replicate n again
  returned : s.stage = .over → s.runs ≠ [] → ∃ n m, s.results =
    List.replicate n again ++ s.failure.elim (.ok ()) .error :: List.replicate m again

namespace Answered

omit [Store σ] in

/-- The results depend on the stage and the runs, and once it is over, on the failure. -/
theorem congr (h : s.Answered) (hstage : s'.stage = s.stage) (hruns : s'.runs = s.runs)
    (hresults : s'.results = s.results) (hfailure : s.stage = .over → s'.failure = s.failure) :
    s'.Answered := by
  refine ⟨fun hpending => ?_, fun hover hran => ?_⟩
  · rw [hresults]
    exact h.pending (by rwa [isPending, ← hstage])
  · have hover' : s.stage = .over := hstage ▸ hover
    rw [hresults, hfailure hover']
    exact h.returned hover' (hruns ▸ hran)

omit [Store σ] in
/-- Before the end nothing is asked of the first start. -/
theorem of_ne_over (hstage : s.stage ≠ .over) (h : ∃ n, s.results = List.replicate n again) :
    s.Answered := ⟨fun _ => h, fun hover => absurd hover hstage⟩

omit [Store σ] in
theorem of_over (hstage : s.stage = .over) (h : s.runs ≠ [] → ∃ n m, s.results =
    List.replicate n again ++ s.failure.elim (.ok ()) .error :: List.replicate m again) :
    s.Answered := ⟨fun hpending => by simp [isPending, hstage] at hpending, fun _ => h⟩

/-- Every start is answered in its turn, the first of them when the session is over. -/
theorem step (h : s.Answered) (hlawful : s.Lawful) (hcounted : s.Counted) {action : SessionAction}
    (hs : Step s action s') : s'.Answered := by
  cases hs with
  | startAgain =>
    refine ⟨fun hpending => ?_, fun hover hran => ?_⟩
    · -- Before the end, a further start is turned away behind those that were.
      obtain ⟨n, hn⟩ := h.pending hpending
      exact ⟨n + 1, by rw [results_finish, hn, List.replicate_succ', again]⟩
    · -- After the end, it is turned away behind the first one.
      obtain ⟨n, m, hnm⟩ := h.returned hover hran
      refine ⟨n, m + 1, ?_⟩
      rw [results_finish, hnm, List.append_assoc, List.cons_append, List.replicate_succ', again]
      rfl
  | startStopped hstage => exact of_over rfl fun hran => absurd (hlawful.early (.inl hstage)).1 hran
  | start hstage => exact of_ne_over (by simp) ⟨0, hcounted.fresh hstage⟩
  | prepare hstage => exact of_ne_over (by simp [note]) (h.pending (by rw [isPending, hstage]))
  | prepareFail hstage => exact of_over rfl fun hran => absurd (hlawful.early (.inr hstage)).1 hran
  | drain hstage => exact of_ne_over (by simp) (h.pending (by rw [isPending, hstage]))
  | close hstage =>
    exact of_ne_over (by simp [note, cancel]) (h.pending (by rw [isPending, hstage]))
  | finish hstage =>
    -- Here the first start returns, and up to now all others came too late.
    obtain ⟨n, hn⟩ := h.pending (by rw [isPending, hstage])
    exact of_over rfl fun _ => ⟨n, 0, congrArg (· ++ _) hn⟩
  | engine hstage hmove =>
    obtain ⟨hstage', hruns, hresults, -⟩ := hmove.frame
    -- The engine moves before the session is over, so its failures still count.
    exact h.congr hstage' hruns hresults fun hover => by simp [hstage] at hover
  | deliver hactive hmove =>
    obtain ⟨hstage, hruns, hresults, -⟩ := hmove.frame
    exact h.congr hstage hruns hresults fun hover => by simp [isActive, hover] at hactive
  | tick | lastWrite =>
    obtain ⟨hstage, hruns, hresults, -⟩ := s.beginWrite_frame _
    exact h.congr hstage hruns hresults fun _ => failure_beginWrite s _
  | _ => exact h.congr rfl rfl rfl fun _ => rfl

end Answered

/-- This holds along every run, as all that it needs is kept along with it. -/
theorem answered_run (setup : SessionSetup) (store : σ) (history : SchemaHistory)
    (actions : List SessionAction) :
    ((ofSetup setup store history).run actions).Marked ∧
      ((ofSetup setup store history).run actions).Answered := by
  -- All four invariants are kept together, as the last one needs the others.
  have hrun := run_induction
    (P := fun s : Session σ => (s.Lawful ∧ s.Counted) ∧ s.Marked ∧ s.Answered) actions
    (fun _ _ _ _ ⟨⟨hlawful, hcounted⟩, hmarked, hanswered⟩ hs =>
      ⟨⟨hlawful.step hs, hcounted.step hs⟩, hmarked.step hs, hanswered.step hlawful hcounted hs⟩)
    ⟨lawful_run setup store history [], ⟨(absurd rfl ·), (absurd rfl ·)⟩, ⟨nofun, nofun⟩⟩
  exact hrun.2

/-! ## Whole runs -/

/-- **The root cause**: whatever fails, is asked for by callers or is done by the consumer, and in
whatever order,

* the session keeps the first failure of the run, as whoever it happened to tells it, and no later
  one takes its place;
* once the engine was run and the session is over, the first start has returned: with that failure,
  or without an error if nothing failed;
* after a failure no record becomes events or is rejected, no statement is recorded, and the
  consumer is handed nothing more;
* the first start of a session that failed or was stopped does return: there is only so much left to
  be done, and when nobody can go on the session is over. -/
theorem first_failure_is_returned (setup : SessionSetup) (store : σ) (history : SchemaHistory)
    (actions : List SessionAction) :
    let s₀ := ofSetup setup store history
    let s := s₀.run actions
    s.failure = (s₀.failures actions).head? ∧
    (∀ e, s.failure = some e ↔ ∃ before action later, actions = before ++ action :: later ∧
      (s₀.run before).failure = none ∧ (s₀.run before).Fails action e) ∧
    (s.runs ≠ [] → s.stage = .over → ∃ n m, s.results = List.replicate n again ++
      (s₀.failures actions).head?.elim (.ok ()) .error :: List.replicate m again) ∧
    (s.failure ≠ none → ∀ later, s.Quiet (s.run later)) ∧
    (s.runs ≠ [] → s.isCancelled = true →
      (∀ later, s.worked later ≤ s.remaining + later.count .tick) ∧
      (s.AtRest → s.stage = .over)) := by
  intro s₀ s
  obtain ⟨hmarked, hanswered⟩ : s.Marked ∧ s.Answered := answered_run setup store history actions
  have hfailure : s.failure = (s₀.failures actions).head? := by
    rw [failure_run]
    rfl
  -- Each part follows from what is kept along the run.
  refine ⟨hfailure, fun _ => failure_run_eq_some_iff rfl, fun hran hover => ?_,
    fun hfailed later => hmarked.quiet_run hfailed later, fun hran hc => ⟨fun later => ?_, ?_⟩⟩
  · rw [← hfailure]
    exact hanswered.returned hover hran
  · have hbound := worked_le hc later
    omega
  · have hstarted : s.stage ≠ .fresh := fun hstage =>
      hran ((lawful_run setup store history actions).1.early (.inl hstage)).1
    exact stage_over_of_cancelled (inOrder_run setup store history actions) hstarted hc

end Session

/-! ### A consumer that rejects, and an engine that fails afterwards -/

/-- An insert, and a failure of the engine; the consumer rejects everything. -/
def SessionSetup.rejected : SessionSetup :=
  { SessionSetup.ofRecords [] ⟨fun _ => false, fun _ => .error (.other "downstream rejected batch")⟩
    with script := [.record (.inserted "t" 1) false, .fail "binlog file purged" none false] }

namespace Session

/-- The consumer rejects the insert before the engine fails. -/
def rejectedFirst : List SessionAction :=
  [.start, .prepare, .engine, .engine, .deliver, .deliver, .deliver, .engine, .engine, .engine,
    .proceed, .proceed, .write, .close, .proceed, .start]

/-- The engine's failure comes second, and the start returns what the consumer answered. -/
theorem rejectedFirst_is_returned :
    ((ofSetup .rejected MemoryStore.empty .empty).failures rejectedFirst).length = 2 ∧
      .error (.other "downstream rejected batch") ∈
        ((ofSetup .rejected MemoryStore.empty .empty).run rejectedFirst).results ∧
      ∀ later, Quiet ((ofSetup .rejected MemoryStore.empty .empty).run rejectedFirst)
        (((ofSetup .rejected MemoryStore.empty .empty).run rejectedFirst).run later) := by
  obtain ⟨hfailure, -, hreturned, hquiet, -⟩ :=
    first_failure_is_returned .rejected MemoryStore.empty .empty rejectedFirst
  have hfirst : ((ofSetup .rejected MemoryStore.empty .empty).failures rejectedFirst).head? =
      some (.other "downstream rejected batch") := by rfl
  have hstage : ((ofSetup .rejected MemoryStore.empty .empty).run rejectedFirst).stage = .over := by
    decide +kernel
  have hran : ((ofSetup .rejected MemoryStore.empty .empty).run rejectedFirst).runs ≠ [] := by
    have hone :
        ((ofSetup .rejected MemoryStore.empty .empty).run rejectedFirst).runs.length = 1 := by
      decide +kernel
    exact List.ne_nil_of_length_eq_add_one hone
  refine ⟨by decide +kernel, ?_, hquiet ?_⟩
  · obtain ⟨n, m, hresults⟩ := hreturned hran hstage
    rw [hresults, hfirst]
    simp
  · rw [hfailure, hfirst]
    exact Option.some_ne_none _

end Session

end ChangeFeed

import ChangeFeed.Proofs.Session.Completion

/-!
# Sessions: Lifecycle

What the consumer and the callers of a session see of its life. Callers may start and stop a session
as often as they like, and everybody else goes on in any order. The engine is run at most once. The
consumer is told that reading begins, is handed batches, and is told that reading ended; after that,
or if the engine never ran, it hears nothing.

## Main results

* `Lawful.step`: every step keeps to the protocol.
* `starts_run`: every start has an answer, except for the first one while the session goes on.
* `lifecycle_protocol`: the protocol of the engine, the consumer and the callers in every run.
-/

namespace ChangeFeed

/-- The consumer sees it. -/
def SessionEntry.isCallback : SessionEntry → Bool
  | .started | .accept _ | .ended => true
  | .malformed _ | .rejected _ | .stopped _ | .observed _ | .reported _ => false

namespace Session

variable {σ : Type} {s s' : Session σ}

/-! ## What the consumer sees -/

/-- What the consumer saw, the oldest first. -/
def callbacks (s : Session σ) : List SessionEntry := s.log.filter (·.isCallback)

/-- The consumer was told that reading begins, and then was only handed batches. -/
def IsHearing (s : Session σ) : Prop :=
  ∃ batches : List Batch, s.callbacks = .started :: batches.map .accept

/-- The consumer was told that reading ended, behind the last batch and its answer. -/
def HasHeard (s : Session σ) : Prop :=
  (∃ batches : List Batch, s.callbacks = .started :: batches.map .accept ++ [.ended]) ∧
    s.delivery.isFinished = true

theorem callbacks_note (s : Session σ) (entry : SessionEntry) :
    (s.note entry).callbacks = s.callbacks ++ [entry].filter (·.isCallback) :=
  List.filter_append s.log [entry]

/-- What the consumer does not see changes nothing for it. -/
theorem callbacks_note_of_not (s : Session σ) {entry : SessionEntry}
    (h : entry.isCallback = false) : (s.note entry).callbacks = s.callbacks := by
  simp [callbacks_note, h]

/-! ## The protocol -/

/-- How much the consumer saw in each stage of a session, and whether the engine was run. -/
structure Lawful (s : Session σ) : Prop where
  early : s.stage = .fresh ∨ s.stage = .preparing → s.runs = [] ∧ s.log = []
  active : s.stage = .reading ∨ s.stage = .draining → s.runs.length = 1 ∧ s.IsHearing
  closing : s.stage = .closing → s.runs.length = 1 ∧ s.HasHeard
  final : s.stage = .over → s.runs = [] ∧ s.log = [] ∨ s.runs.length = 1 ∧ s.HasHeard

namespace Lawful

/-- Only the stage, the runs, the end of the loop and what was noted play a part. -/
theorem congr (h : s.Lawful) (hstage : s'.stage = s.stage) (hruns : s'.runs = s.runs)
    (hlog : s'.log = s.log) (hdelivery : s'.delivery = s.delivery) : s'.Lawful := by
  have hcallbacks : s'.callbacks = s.callbacks := by rw [callbacks, hlog, callbacks]
  -- Each part looks only at what is the same in both.
  constructor
  · rw [hstage, hruns, hlog]
    exact h.early
  · rw [hstage, hruns, IsHearing, hcallbacks]
    exact h.active
  · rw [hstage, hruns, HasHeard, hcallbacks, hdelivery]
    exact h.closing
  · rw [hstage, hruns, hlog, HasHeard, hcallbacks, hdelivery]
    exact h.final

/-- Before the engine runs nothing was noted. -/
theorem of_early (hstage : s.stage = .fresh ∨ s.stage = .preparing) (hruns : s.runs = [])
    (hlog : s.log = []) : s.Lawful where
  early _ := ⟨hruns, hlog⟩
  active := by rcases hstage with hstage | hstage <;> simp [hstage]
  closing := by rcases hstage with hstage | hstage <;> simp [hstage]
  final := by rcases hstage with hstage | hstage <;> simp [hstage]

/-- While events are read or drained the consumer hears of the beginning and of batches. -/
theorem of_active (hstage : s.stage = .reading ∨ s.stage = .draining) (hruns : s.runs.length = 1)
    (hhearing : s.IsHearing) : s.Lawful where
  early := by rcases hstage with hstage | hstage <;> simp [hstage]
  active _ := ⟨hruns, hhearing⟩
  closing := by rcases hstage with hstage | hstage <;> simp [hstage]
  final := by rcases hstage with hstage | hstage <;> simp [hstage]

/-- When the session is closed the consumer has heard of the end. -/
theorem of_closing (hstage : s.stage = .closing) (hruns : s.runs.length = 1)
    (hheard : s.HasHeard) : s.Lawful where
  early := by simp [hstage]
  active := by simp [hstage]
  closing _ := ⟨hruns, hheard⟩
  final := by simp [hstage]

/-- A session ends with the engine never run and nothing seen, or with both over. -/
theorem of_final (hstage : s.stage = .over)
    (hend : s.runs = [] ∧ s.log = [] ∨ s.runs.length = 1 ∧ s.HasHeard) : s.Lawful where
  early := by simp [hstage]
  active := by simp [hstage]
  closing := by simp [hstage]
  final _ := hend

end Lawful

/-! ## The engine and the loop -/

/-- The engine moves in its own stage, and the consumer sees nothing of it. -/
theorem EngineMove.frame (h : EngineMove s s') :
    s'.stage = s.stage ∧ s'.runs = s.runs ∧ s'.results = s.results ∧
      s'.callbacks = s.callbacks := by
  -- The engine notes its own doings only, which the consumer does not see.
  cases h with
  | complete => exact ⟨rfl, rfl, rfl, callbacks_note_of_not s rfl⟩
  | reject =>
    dsimp only
    split <;> exact ⟨rfl, rfl, rfl, callbacks_note_of_not s rfl⟩
  | malformed => exact ⟨rfl, rfl, rfl, callbacks_note_of_not s rfl⟩
  | stop => exact ⟨rfl, rfl, rfl, callbacks_note_of_not s rfl⟩
  | observe => exact ⟨rfl, rfl, rfl, callbacks_note_of_not s rfl⟩
  | fail =>
    dsimp only
    split <;> exact ⟨rfl, rfl, rfl, callbacks_note_of_not s rfl⟩
  | _ => exact ⟨rfl, rfl, rfl, rfl⟩

/-- The loop moves within a stage, until it came to its end; the consumer sees of it that it is
handed batches. -/
theorem DeliveryMove.frame (h : DeliveryMove s s') :
    s'.stage = s.stage ∧ s'.runs = s.runs ∧ s'.results = s.results ∧
      s.delivery.isFinished = false ∧
      (s'.callbacks = s.callbacks ∨ ∃ batch, s'.callbacks = s.callbacks ++ [.accept batch]) := by
  -- The loop has not ended, as it moves.
  cases h with
  | take hwaiting => exact ⟨rfl, rfl, rfl, by rw [hwaiting]; rfl, .inl rfl⟩
  | @hand item hholding =>
    exact ⟨rfl, rfl, rfl, by rw [hholding]; rfl, .inr ⟨item.batch, callbacks_note _ _⟩⟩
  | finish hend =>
    have hgoing : s.delivery.isFinished = false := by
      obtain hwaiting | ⟨item, hholding⟩ := waiting_or_holding_of_end hend
      · rw [hwaiting]; rfl
      · rw [hholding]; rfl
    exact ⟨rfl, rfl, rfl, hgoing, .inl rfl⟩
  | accept hhanding =>
    dsimp only
    split <;> exact ⟨rfl, rfl, rfl, by rw [hhanding]; rfl, .inl rfl⟩
  | reject hhanding => exact ⟨rfl, rfl, rfl, by rw [hhanding]; rfl, .inl rfl⟩

/-- A write of the history is seen by nobody. -/
theorem beginWrite_frame [Store σ] (s : Session σ) (final : Bool) :
    (s.beginWrite final).stage = s.stage ∧ (s.beginWrite final).runs = s.runs ∧
      (s.beginWrite final).results = s.results ∧ (s.beginWrite final).log = s.log ∧
      (s.beginWrite final).delivery = s.delivery := by
  obtain ⟨history, timer, heq⟩ := beginWrite_eq s final
  rw [heq]
  exact ⟨rfl, rfl, rfl, rfl, rfl⟩

/-- One more batch does not change what the consumer may expect. -/
theorem IsHearing.accept (h : s.IsHearing) {batch : Batch}
    (hcallbacks : s'.callbacks = s.callbacks ++ [.accept batch]) : s'.IsHearing := by
  obtain ⟨batches, hbatches⟩ := h
  refine ⟨batches ++ [batch], ?_⟩
  rw [hcallbacks, hbatches, List.map_append, List.cons_append]
  rfl

namespace Lawful

/-- The engine moves while events are read, and leaves the consumer alone. -/
theorem engine (h : s.Lawful) (hstage : s.stage = .reading) (hmove : EngineMove s s') :
    s'.Lawful := by
  obtain ⟨hstage', hruns, -, hcallbacks⟩ := hmove.frame
  obtain ⟨hone, hhearing⟩ := h.active (.inl hstage)
  refine of_active (.inl (hstage'.trans hstage)) (hruns ▸ hone) ?_
  rw [IsHearing, hcallbacks]
  exact hhearing

/-- The loop hands over batches until the consumer has heard of the end. -/
theorem deliver (h : s.Lawful) (hactive : s.isActive = true) (hmove : DeliveryMove s s') :
    s'.Lawful := by
  obtain ⟨hstage', hruns, -, hgoing, hcallbacks⟩ := hmove.frame
  -- Once the consumer was told that reading ended, the loop is at its end and does nothing.
  have hstage : s.stage = .reading ∨ s.stage = .draining := by
    cases hstage : s.stage with
    | reading => exact .inl rfl
    | draining => exact .inr rfl
    | closing => exact Bool.noConfusion (hgoing.symm.trans (h.closing hstage).2.2)
    | fresh | preparing | «over» => simp [isActive, hstage] at hactive
  obtain ⟨hone, hhearing⟩ := h.active hstage
  refine of_active (hstage' ▸ hstage) (hruns ▸ hone) ?_
  rcases hcallbacks with hsame | ⟨batch, hbatch⟩
  · rw [IsHearing, hsame]
    exact hhearing
  · exact hhearing.accept hbatch

theorem beginWrite [Store σ] (h : s.Lawful) (final : Bool) : (s.beginWrite final).Lawful := by
  obtain ⟨hstage, hruns, -, hlog, hdelivery⟩ := s.beginWrite_frame final
  exact h.congr hstage hruns hlog hdelivery

/-! ## Every step -/

/-- **Preservation**: every step of every party keeps to the protocol. -/
theorem step [Store σ] (h : s.Lawful) {action : SessionAction} (hs : Step s action s') :
    s'.Lawful := by
  cases hs with
  | startStopped hstage =>
    exact of_final rfl (.inl (h.early (.inl hstage)))
  | start hstage =>
    obtain ⟨hruns, hlog⟩ := h.early (.inl hstage)
    exact of_early (.inr rfl) hruns hlog
  | prepare hstage =>
    -- The engine has not run before, and the consumer hears of it for the first time.
    obtain ⟨hruns, hlog⟩ := h.early (.inr hstage)
    refine of_active (.inl rfl) (by simp [note, hruns]) ⟨[], ?_⟩
    simp [callbacks, note, hlog, SessionEntry.isCallback]
  | prepareFail hstage =>
    exact of_final rfl (.inl (h.early (.inr hstage)))
  | drain hstage =>
    obtain ⟨hone, hhearing⟩ := h.active (.inl hstage)
    exact of_active (.inr rfl) hone hhearing
  | @close failure hstage hdelivery =>
    obtain ⟨hone, batches, hbatches⟩ := h.active (.inr hstage)
    have hheard : HasHeard ({ s with stage := .closing }.note .ended).cancel := by
      refine ⟨⟨batches, ?_⟩, by simp [Session.cancel, note, hdelivery, DeliveryPhase.isFinished]⟩
      rw [← hbatches]
      exact callbacks_note s .ended
    exact of_closing rfl hone hheard
  | finish hstage => exact of_final rfl (.inr (h.closing hstage))
  | engine hstage hmove => exact h.engine hstage hmove
  | leave hstage =>
    obtain ⟨hone, hhearing⟩ := h.active (.inl hstage)
    refine of_active (.inl hstage) hone ?_
    have hsame : (s.note (.reported true)).callbacks = s.callbacks := callbacks_note_of_not s rfl
    rw [IsHearing, ← hsame] at hhearing
    exact hhearing
  | deliver hactive hmove => exact h.deliver hactive hmove
  | tick | lastWrite => exact h.beginWrite _
  | _ => exact h.congr rfl rfl rfl rfl

end Lawful

/-! ## Starts and their answers -/

/-- The first start has not returned yet. -/
def isPending (s : Session σ) : Bool :=
  match s.stage with
  | .fresh | .over => false
  | .preparing | .reading | .draining | .closing => true

/-- The starts that were made, whether they were answered or not. -/
def starts (s : Session σ) : Nat := s.results.length + s.isPending.toNat

/-- A session that was started is not fresh any more. -/
structure Counted (s : Session σ) : Prop where
  fresh : s.stage = .fresh → s.results = []
  final : s.stage = .over → s.results ≠ []

theorem Counted.congr (h : s.Counted) (hstage : s'.stage = s.stage)
    (hresults : s'.results = s.results) : s'.Counted :=
  ⟨hstage ▸ hresults ▸ h.fresh, hstage ▸ hresults ▸ h.final⟩

theorem starts_congr (hstage : s'.stage = s.stage) (hresults : s'.results = s.results) :
    s'.starts = s.starts := by
  rw [starts, isPending, hstage, hresults, starts, isPending]

@[simp] theorem stage_finish (s : Session σ) (result : Result Unit) :
    (s.finish result).stage = s.stage := rfl

@[simp] theorem results_finish (s : Session σ) (result : Result Unit) :
    (s.finish result).results = s.results ++ [result] := rfl

variable [Store σ]

/-- A start is made, and every other step neither makes one nor takes one back. -/
theorem Step.starts_eq {action : SessionAction} (h : Step s action s') :
    s'.starts = s.starts + [action].count .start := by
  cases h with
  | startAgain =>
    simp only [starts, isPending, stage_finish, results_finish, List.length_append,
      List.length_singleton, List.count_singleton_self]
    omega
  | startStopped hstage => simp [starts, isPending, hstage]
  | start hstage => simp [starts, isPending, hstage]
  | prepare hstage => simp [starts, isPending, note, hstage]
  -- Here the first start is answered, so it is not pending any more.
  | prepareFail hstage => simp [starts, isPending, cancel, hstage]
  | drain hstage => simp [starts, isPending, hstage]
  | close hstage => simp [starts, isPending, note, cancel, hstage]
  | finish hstage => simp [starts, isPending, hstage]
  | engine _ hmove | deliver _ hmove =>
    obtain ⟨hstage, -, hresults, -⟩ := hmove.frame
    exact starts_congr hstage hresults
  | tick | lastWrite =>
    obtain ⟨hstage, -, hresults, -⟩ := s.beginWrite_frame _
    exact starts_congr hstage hresults
  | _ => rfl

/-- Every start is counted with the result that it will have or has. -/
theorem Counted.step (h : s.Counted) {action : SessionAction} (hs : Step s action s') :
    s'.Counted := by
  -- A start adds a result or is yet to have one, and nothing else is answered.
  cases hs with
  | startAgain hstage => exact ⟨(absurd · hstage), fun _ => by simp⟩
  | startStopped | prepareFail | finish => exact ⟨nofun, fun _ => by simp⟩
  | start | prepare | drain | close => exact ⟨nofun, nofun⟩
  | engine _ hmove | deliver _ hmove =>
    obtain ⟨hstage, -, hresults, -⟩ := hmove.frame
    exact h.congr hstage hresults
  | tick | lastWrite =>
    obtain ⟨hstage, -, hresults, -⟩ := s.beginWrite_frame _
    exact h.congr hstage hresults
  | _ => exact h.congr rfl rfl

/-- In every run the starts are those that the callers made. -/
theorem starts_run (s : Session σ) (actions : List SessionAction) :
    (s.run actions).starts = s.starts + actions.count .start := by
  induction actions generalizing s with
  | nil => rfl
  | cons action actions ih =>
    rw [run_cons, ih, ← List.singleton_append, List.count_append, ← Nat.add_assoc]
    congr 1
    cases hs : s.step? action with
    | some s' => exact (Step.of_step? hs).starts_eq
    | none =>
      -- A start is always possible.
      have hne : action ≠ .start := by
        rintro rfl
        cases hs
      simp [hne]

/-! ## The end -/

/-- A session that is over stays over, and nobody sees anything of it any more. -/
structure EndedAs (e s : Session σ) : Prop where
  stage : s.stage = .over
  log : s.log = e.log
  runs : s.runs = e.runs

/-- After the end there is nothing to be changed. -/
theorem EndedAs.step {e : Session σ} (h : e.EndedAs s) {action : SessionAction}
    (hs : Step s action s') : e.EndedAs s' := by
  have hstage : s.stage = .over := h.stage
  have hinactive : s.isActive ≠ true := by simp [isActive, hstage]
  -- Only the callers can still do anything.
  cases hs with
  | startAgain | stop => exact ⟨h.stage, h.log, h.runs⟩
  | startStopped hother | start hother | prepare hother | prepareFail hother | drain hother
  | close hother | finish hother | engine hother | leave hother =>
    rw [hstage] at hother
    cases hother
  | deliver hactive | tick hactive | lastWrite hactive | endWrite hactive
  | closeEngine hactive => exact absurd hactive hinactive

/-- **Progress**: a session that was stopped, or came to an end in another way, is over when nobody
can go on. -/
theorem stage_over_of_cancelled (h : s.InOrder) (hstarted : s.stage ≠ .fresh)
    (hc : s.isCancelled = true) (hrest : s.AtRest) : s.stage = .over := by
  cases hstage : s.stage with
  | fresh => exact absurd hstage hstarted
  | preparing =>
    have hprepare := hrest .prepare (by simp) (by simp) (by simp)
    simp [step?, hstage] at hprepare
  | reading =>
    have hactive : s.isActive = true := by simp [isActive, hstage]
    have hengine := hrest .engine (by simp) (by simp) (by simp)
    have hleave := hrest .leave (by simp) (by simp) (by simp)
    have hclose := hrest .close (by simp) (by simp) (by simp)
    simp only [step?, hactive, hstage, if_true] at hengine hleave hclose
    have hclosed := engineClosed_of_close hc hclose
    -- An engine that was closed leaves, unless it has events in hand, which it drops.
    have hfinished : s.engine = .finished := by
      cases hphase : s.engine with
      | finished => rfl
      | ready | pausing _ => simp [leave?, hphase, hclosed] at hleave
      | offering events => cases events <;> simp [engine?, hphase, hc] at hengine
    exact hstage ▸ stage_over_of_atRest h hfinished hrest
  | draining =>
    exact hstage ▸ stage_over_of_atRest h (h.engine_done (h.queue_closed (.inl hstage))) hrest
  | closing =>
    exact hstage ▸ stage_over_of_atRest h (h.engine_done (h.queue_closed (.inr hstage))) hrest
  | «over» => rfl

/-! ## Whole lives -/

/-- Every invariant of a session's life, in every run. -/
theorem lawful_run (setup : SessionSetup) (store : σ) (history : SchemaHistory)
    (actions : List SessionAction) :
    ((ofSetup setup store history).run actions).Lawful ∧
      ((ofSetup setup store history).run actions).Counted := by
  refine run_induction (P := fun s => s.Lawful ∧ s.Counted) actions
    (fun _ _ _ _ h hs => ⟨h.1.step hs, h.2.step hs⟩) ⟨?_, fun _ => rfl, nofun⟩
  exact Lawful.of_early (.inl rfl) rfl rfl

/-- **Lifecycle**: whatever is asked for by callers, done by the engine and the consumer, or refused
by the store, and in whatever order,

* the engine is run once at most, and if it is not run, nobody sees anything;
* if it is run, the consumer is told so first, is handed batches, and is told of the end once the
  last batch is answered, and of nothing after that;
* every start but the first one fails and changes nothing else;
* the first start has returned exactly if the session is over; then the session does not run, the
  consumer of an engine that was run was told of the end, and nobody will see anything any more;
* when the engine came to its end or the session was stopped, and nobody can go on, the first start
  has returned. -/
theorem lifecycle_protocol (setup : SessionSetup) (store : σ) (history : SchemaHistory)
    (actions : List SessionAction) :
    let s := (ofSetup setup store history).run actions
    s.runs.length ≤ 1 ∧ (s.runs = [] → s.log = []) ∧ (s.runs ≠ [] → s.IsHearing ∨ s.HasHeard) ∧
      (.start ∈ actions →
        s.step? .start = some
          { s with
            results := s.results ++ [.error (.invalidState "stream session already started")] } ∧
        (s.results.length = actions.count .start ↔ s.stage = .over) ∧
        (s.stage = .over → s.isRunning = false ∧ (s.runs ≠ [] → s.HasHeard) ∧
          ∀ later, s.EndedAs (s.run later)) ∧
        (s.engine = .finished ∨ s.isCancelled = true → s.AtRest → s.stage = .over)) := by
  intro s
  obtain ⟨hlawful, hcounted⟩ : s.Lawful ∧ s.Counted := lawful_run setup store history actions
  have hinOrder : s.InOrder := inOrder_run setup store history actions
  have hstarts : s.results.length + s.isPending.toNat = actions.count .start := by
    have hcount := starts_run (ofSetup setup store history) actions
    rwa [show (ofSetup setup store history).starts = 0 from rfl, Nat.zero_add] at hcount
  -- What was seen so far depends on the stage only.
  have hseen : s.runs = [] ∧ s.log = [] ∨ s.runs.length = 1 ∧ (s.IsHearing ∨ s.HasHeard) := by
    cases hstage : s.stage with
    | fresh => exact .inl (hlawful.early (.inl hstage))
    | preparing => exact .inl (hlawful.early (.inr hstage))
    | reading => exact .inr ((hlawful.active (.inl hstage)).imp_right .inl)
    | draining => exact .inr ((hlawful.active (.inr hstage)).imp_right .inl)
    | closing => exact .inr ((hlawful.closing hstage).imp_right .inr)
    | «over» => exact (hlawful.final hstage).imp_right fun h => h.imp_right .inr
  refine ⟨?_, fun hruns => ?_, fun hruns => ?_, fun hstart => ?_⟩
  · rcases hseen with ⟨hruns, -⟩ | ⟨hone, -⟩
    · simp [hruns]
    · exact Nat.le_of_eq hone
  · rcases hseen with ⟨-, hlog⟩ | ⟨hone, -⟩
    · exact hlog
    · simp [hruns] at hone
  · exact (hseen.resolve_left fun h => hruns h.1).2
  · have hstarted : s.stage ≠ .fresh := fun hstage => by
      have hpos : 0 < actions.count .start := List.count_pos_iff.2 hstart
      simp [hcounted.fresh hstage, isPending, hstage] at hstarts
      omega
    refine ⟨?_, ⟨fun hall => ?_, fun hover => ?_⟩, fun hover => ⟨?_, fun hruns => ?_, ?_⟩, ?_⟩
    · simp only [step?, start, if_pos hstarted]
      rfl
    · -- If every start was answered, none is pending.
      have hnone : s.isPending = false := by
        cases hpending : s.isPending with
        | false => rfl
        | true => simp [hpending] at hstarts; omega
      cases hstage : s.stage with
      | fresh => exact absurd hstage hstarted
      | «over» => rfl
      | preparing | reading | draining | closing => simp [isPending, hstage] at hnone
    · simpa [isPending, hover] using hstarts
    · simp [isRunning, hinOrder.cancelled_of_late (.inr hover)]
    · exact ((hlawful.final hover).resolve_left fun h => hruns h.1).2
    · exact fun later => run_induction later (fun _ _ _ _ h hs => h.step hs) ⟨hover, rfl, rfl⟩
    · rintro (hengine | hc) hrest
      · exact stage_over_of_atRest hinOrder hengine hrest
      · exact stage_over_of_cancelled hinOrder hstarted hc hrest

/-! ### A session that is stopped while it reads -/

omit [Store σ] in
/-- A run with two starts too many: one while the session reads, and one when it is over. -/
def stoppedEarly : Session MemoryStore :=
  (ofSetup (.ofRecords [.inserted "t" 1, .inserted "t" 2] .willing) .empty .empty).run
    [.start, .prepare, .start, .engine, .engine, .deliver, .deliver, .stop, .deliver, .deliver,
      .close, .engine, .leave, .proceed, .proceed, .write, .proceed, .start]

/-- The consumer is told of the beginning, of the first insert and of the end, and the superfluous
starts fail. -/
theorem stoppedEarly_ends :
    stoppedEarly.stage = .over ∧ stoppedEarly.results.length = 3 ∧
      stoppedEarly.isRunning = false ∧ stoppedEarly.HasHeard ∧
      stoppedEarly.accepted.length = 1 := by
  have hstage : stoppedEarly.stage = .over := by decide +kernel
  have hruns : stoppedEarly.runs ≠ [] := by
    have hone : stoppedEarly.runs.length = 1 := by decide +kernel
    exact List.ne_nil_of_length_eq_add_one hone
  obtain ⟨-, -, -, hstarted⟩ := lifecycle_protocol
    (.ofRecords [.inserted "t" 1, .inserted "t" 2] .willing) MemoryStore.empty .empty
    [.start, .prepare, .start, .engine, .engine, .deliver, .deliver, .stop, .deliver, .deliver,
      .close, .engine, .leave, .proceed, .proceed, .write, .proceed, .start]
  -- The parts that the protocol promises are read off the end of this run.
  obtain ⟨-, hanswered, hended, -⟩ := hstarted (by decide)
  obtain ⟨hrunning, hheard, -⟩ := hended hstage
  exact ⟨hstage, hanswered.2 hstage, hrunning, hheard hruns, by decide +kernel⟩

end Session

end ChangeFeed

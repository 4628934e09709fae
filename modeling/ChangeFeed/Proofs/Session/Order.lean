import ChangeFeed.Proofs.Delivery
import ChangeFeed.Proofs.Session.Steps
import ChangeFeed.Proofs.Session.Transcript

/-!
# Sessions: Order

Whatever order the parties of a session go on in, the consumer accepts the events of the records in
their order, each as a batch of its own, with none left out and none twice. The invariant balances
what was accepted and what is on its way against the transcript of the whole script. A session that
is cancelled drops what is on its way, so from then on only what the loop has in hand still counts.

## Main results

* `InOrder.step`, `inOrder_run`: the balance holds after every step and in every run.
-/

namespace ChangeFeed

/-! ## What is on its way -/

/-- The events of the engine's record that are not in the queue yet. -/
def EnginePhase.pending : EnginePhase → List PlacedEvent
  | .offering events => events
  | .ready | .pausing _ | .finished => []

namespace Session

variable {σ : Type} {s s' : Session σ}

/-- What the consumer is to accept: a batch for every event of the transcript. -/
def expected (s : Session σ) : List Batch :=
  (s.interpreter.transcript (EngineStep.records s.setup.script)).map PlacedEvent.batch

/-- The events that were not accepted yet, from the loop's hand back to the rest of the script. -/
def outstanding (s : Session σ) : List PlacedEvent :=
  s.delivery.inHand ++ s.queue.items ++ s.engine.pending ++
    s.interpreter.transcript (EngineStep.records s.script)

/-- The engine has not begun to read. -/
structure Untouched (s : Session σ) : Prop where
  engine : s.engine = .ready
  script : s.script = s.setup.script
  queue : s.queue.items = []
  delivery : s.delivery = .waiting
  accepted : s.accepted = []
  isEngineClosed : s.isEngineClosed = false
  isQueueClosed : s.isQueueClosed = false

theorem not_early_of_isActive (h : s.isActive = true) :
    ¬ (s.stage = .fresh ∨ s.stage = .preparing) := by
  rintro (hs | hs) <;> simp [isActive, hs] at h

/-- The balance of a session, and how the ends of its parties depend on each other. -/
structure InOrder (s : Session σ) : Prop where
  untouched : s.stage = .fresh ∨ s.stage = .preparing → s.Untouched
  script_suffix : s.script <:+ s.setup.script
  handed : s.accepted ++ s.delivery.inHand.map PlacedEvent.batch <+: s.expected
  balanced : s.isCancelled = false →
    s.accepted ++ s.outstanding.map PlacedEvent.batch = s.expected
  cancelled_of_closed : s.isEngineClosed = true → s.isCancelled = true
  cancelled_of_late : s.stage = .closing ∨ s.stage = .over → s.isCancelled = true
  script_done : s.engine = .finished → s.isCancelled = false → s.script = []
  engine_done : s.isQueueClosed = true → s.engine = .finished
  queue_closed : s.stage = .draining ∨ s.stage = .closing → s.isQueueClosed = true
  delivery_done : s.isCancelled = false → s.delivery.isFinished = true →
    s.isQueueClosed = true ∧ s.queue.items = []

namespace InOrder

/-! ## What does not matter -/

/-- The store, the history, the timer and what is only noted play no part. -/
theorem aside (h : s.InOrder) (store : σ) (history : SchemaHistory) (timer : TimerPhase)
    (failure : Option Error) (runs : List EngineProperties) (results : List (Result Unit))
    (log : List SessionEntry) :
    { s with store, history, timer, failure, runs, results, log }.InOrder :=
  { h with untouched := fun hs => { h.untouched hs with } }

/-- A session that is cancelled drops what is on its way. -/
theorem cancel (h : s.InOrder) : s.cancel.InOrder where
  untouched hs := { h.untouched hs with }
  script_suffix := h.script_suffix
  handed := h.handed
  balanced := nofun
  cancelled_of_closed _ := rfl
  cancelled_of_late _ := rfl
  script_done _ := nofun
  engine_done := h.engine_done
  queue_closed := h.queue_closed
  delivery_done := nofun

theorem note (h : s.InOrder) (entry : SessionEntry) : (s.note entry).InOrder :=
  h.aside _ _ _ _ _ _ _

theorem finish (h : s.InOrder) (result : Result Unit) : (s.finish result).InOrder :=
  h.aside _ _ _ _ _ _ _

theorem fail (h : s.InOrder) (e : Error) : (s.fail e).InOrder :=
  h.cancel.aside _ _ _ _ _ _ _

/-! ## The caller and the session itself -/

/-- Nothing is on its way in a session that has not begun to read. -/
theorem of_untouched (h : s.Untouched) (hlate : s.stage ≠ .draining ∧ s.stage ≠ .closing)
    (hover : s.stage = .over → s.isCancelled = true) : s.InOrder where
  untouched _ := h
  script_suffix := h.script ▸ List.suffix_refl _
  handed := by simp [h.accepted, h.delivery, DeliveryPhase.inHand]
  -- All that is expected is still in the script.
  balanced _ := by
    simp [outstanding, expected, h.accepted, h.delivery, h.queue, h.engine, h.script,
      DeliveryPhase.inHand, EnginePhase.pending]
  cancelled_of_closed hclosed := by simp [h.isEngineClosed] at hclosed
  cancelled_of_late hs := hs.elim (absurd · hlate.2) hover
  script_done hengine := by simp [h.engine] at hengine
  engine_done hclosed := by simp [h.isQueueClosed] at hclosed
  queue_closed hs := hs.elim (absurd · hlate.1) (absurd · hlate.2)
  delivery_done _ hdelivery := by simp [h.delivery, DeliveryPhase.isFinished] at hdelivery

/-- The session may go on to a stage whose conditions it meets. -/
theorem setStage (h : s.InOrder) (stage : SessionStage)
    (hearly : stage = .fresh ∨ stage = .preparing → s.Untouched)
    (hlate : stage = .closing ∨ stage = .over → s.isCancelled = true)
    (hqueue : stage = .draining ∨ stage = .closing → s.isQueueClosed = true) :
    { s with stage }.InOrder :=
  { h with
    untouched := fun hs => { hearly hs with }
    cancelled_of_late := hlate
    queue_closed := hqueue }

/-! ## The engine -/

/-- The engine goes on without bringing events up or handing them on. -/
theorem setEngine (h : s.InOrder) (hstage : s.stage = .reading) (hengine : s.engine ≠ .finished)
    (phase : EnginePhase) (hpending : s.isCancelled = false → phase.pending = s.engine.pending)
    (hdone : phase = .finished → s.isCancelled = false → s.script = []) :
    { s with engine := phase }.InOrder :=
  { h with
    untouched := by simp [hstage]
    -- What is pending in the engine has only changed its phase.
    balanced := fun hc => by
      have hbalance := h.balanced hc
      simp only [outstanding, ← hpending hc] at hbalance
      exact hbalance
    script_done := hdone
    engine_done := fun hclosed => absurd (h.engine_done hclosed) hengine }

/-- A step of the script goes by that hands no record over, or nobody takes the record. -/
theorem skip (h : s.InOrder) (hstage : s.stage = .reading) {step : EngineStep}
    {script : List EngineStep} (hscript : s.script = step :: script)
    (hstep : s.isCancelled = false → step.record? = none) : { s with script }.InOrder :=
  { h with
    untouched := by simp [hstage]
    script_suffix := (hscript ▸ List.suffix_cons step script).trans h.script_suffix
    -- A step that hands no record over leaves the transcript as it is.
    balanced := fun hc => by
      have hbalance := h.balanced hc
      simp only [outstanding, hscript, EngineStep.records_of_none (hstep hc)] at hbalance
      exact hbalance
    script_done := fun hengine hc => by
      have hdone := h.script_done hengine hc
      rw [hscript] at hdone
      cases hdone }

/-- The events of a record leave the script and become what the engine has in hand. -/
theorem interpret (h : s.InOrder) (hstage : s.stage = .reading) (hengine : s.engine = .ready)
    {record : LogRecord} {isLenient : Bool} {script : List EngineStep} {events : List PlacedEvent}
    {history : SchemaHistory} (hscript : s.script = .record record isLenient :: script)
    (hevents : s.interpreter.interpret s.history record = (.ok events, history)) :
    { s with script, history, engine := .offering events }.InOrder := by
  -- The events do not depend on the history, so they are the next ones of the transcript.
  have htranscript : s.interpreter.transcript (EngineStep.records s.script) =
      events ++ s.interpreter.transcript (EngineStep.records script) := by
    rw [hscript, EngineStep.records_record]
    refine Interpreter.transcript_cons_of_ok ?_ _
    rw [← Interpreter.interpret_fst _ s.history]
    exact congrArg Prod.fst hevents
  exact
    { h with
      untouched := by simp [hstage]
      script_suffix := (hscript ▸ List.suffix_cons _ script).trans h.script_suffix
      balanced := fun hc => by
        have hbalance := h.balanced hc
        simp only [outstanding, htranscript, hengine, EnginePhase.pending, List.append_nil,
          ← List.append_assoc] at hbalance
        exact hbalance
      script_done := nofun
      engine_done := fun hclosed => absurd (h.engine_done hclosed) (by simp [hengine]) }

/-- An event leaves the engine's hand and goes behind those in the queue. -/
theorem offer (h : s.InOrder) (hstage : s.stage = .reading) {event : PlacedEvent}
    {events : List PlacedEvent} {queue : BoundedQueue PlacedEvent}
    (hengine : s.engine = .offering (event :: events))
    (hoffer : s.queue.offer? event = some queue) :
    { s with queue, engine := .offering events }.InOrder := by
  have hgoing : s.engine ≠ .finished := by simp [hengine]
  -- What is on its way stays in its order.
  have hmoved : s.delivery.inHand ++ s.queue.items ++ event :: events =
      s.delivery.inHand ++ queue.items ++ events := by
    simp [BoundedQueue.items_of_offer hoffer]
  exact
    { h with
      untouched := by simp [hstage]
      balanced := fun hc => by
        have hbalance := h.balanced hc
        simp only [outstanding, hengine, EnginePhase.pending, hmoved] at hbalance
        exact hbalance
      script_done := nofun
      engine_done := fun hclosed => absurd (h.engine_done hclosed) hgoing
      delivery_done := fun hc hd => absurd (h.engine_done (h.delivery_done hc hd).1) hgoing }

/-- What the engine does keeps the order. -/
theorem engine (h : s.InOrder) (hstage : s.stage = .reading) (hmove : EngineMove s s') :
    s'.InOrder := by
  have hgoing : s.engine ≠ .finished := hmove.engine_ne_finished
  -- There is a case for each move; a failure cancels the session, and after that nothing has to
  -- arrive.
  cases hmove with
  | complete hengine hscript =>
    exact (h.setEngine hstage hgoing _ (fun _ => by rw [hengine]; rfl) fun _ _ => hscript).note _
  | ignore hengine hscript hcancelled =>
    -- A session that is cancelled has no balance to keep.
    have hskip := h.skip hstage hscript fun hc => by simp [hc] at hcancelled
    exact hskip.setEngine hstage hgoing _ (fun _ => by rw [hengine]; rfl) nofun
  | interpret hengine hscript _ hevents => exact h.interpret hstage hengine hscript hevents
  | @reject _ _ _ e history _ hscript =>
    have haside := h.aside s.store history s.timer s.failure s.runs s.results s.log
    -- The session is cancelled now, so the record that is skipped does not count any more.
    have hrejected := ((haside.fail e).skip hstage hscript nofun).note
      (.rejected (.engine e.message))
    dsimp only
    split
    next => exact hrejected.setEngine hstage hgoing _ nofun nofun
    next => exact (hrejected.fail _).setEngine hstage hgoing _ nofun nofun
  | malformed _ hscript => exact (h.skip hstage hscript fun _ => rfl).note _
  | stop _ hscript => exact (h.skip hstage hscript fun _ => rfl).cancel.note _
  | observe _ hscript => exact (h.skip hstage hscript fun _ => rfl).note _
  | awaitClose _ hscript => exact h.skip hstage hscript fun _ => rfl
  | sleep hengine hscript =>
    have hskip := h.skip hstage hscript fun _ => rfl
    exact hskip.setEngine hstage hgoing _ (fun _ => by rw [hengine]; rfl) nofun
  | @fail message cause _ _ _ hscript =>
    have hfailed := ((h.skip hstage hscript fun _ => rfl).note (.reported false)).fail
      (engineFailure message cause)
    dsimp only
    split
    next => exact hfailed
    next => exact hfailed.setEngine hstage hgoing _ nofun nofun
  | pause hengine =>
    exact h.setEngine hstage hgoing _ (fun _ => by rw [hengine]; rfl) nofun
  | drop _ hcancelled =>
    exact h.setEngine hstage hgoing _ (fun hc => by simp [hc] at hcancelled) nofun
  | offer hengine _ hoffer => exact h.offer hstage hengine hoffer
  | resume hengine =>
    exact h.setEngine hstage hgoing _ (fun _ => by rw [hengine]; rfl) nofun

/-- An engine that is closed may end at any time, for then the session is cancelled. -/
theorem leave (h : s.InOrder) (hstage : s.stage = .reading) (hclosed : s.isEngineClosed = true)
    (hengine : s.engine = .ready ∨ ∃ duration, s.engine = .pausing duration) :
    { s.note (.reported true) with engine := .finished }.InOrder := by
  have hgoing : s.engine ≠ .finished := by
    obtain hready | ⟨duration, hpausing⟩ := hengine
    · simp [hready]
    · simp [hpausing]
  have hnot : s.isCancelled ≠ false := by simp [h.cancelled_of_closed hclosed]
  exact (h.note _).setEngine hstage hgoing _ (absurd · hnot) fun _ => (absurd · hnot)

/-! ## The delivery loop -/

/-- The loop ends. -/
theorem endDelivery (h : s.InOrder) (hactive : s.isActive = true) (failure : Option Error)
    (hdone : s.isCancelled = false → s.isQueueClosed = true ∧ s.queue.items = [] ∧
      s.delivery.inHand = []) :
    { s with delivery := .finished failure }.InOrder :=
  { h with
    untouched := fun hs => absurd hs (not_early_of_isActive hactive)
    handed := by
      refine List.IsPrefix.trans ?_ h.handed
      simp [DeliveryPhase.inHand]
    balanced := fun hc => by
      -- The loop ends with nothing in hand, so nothing is lost.
      have hbalance := h.balanced hc
      simp only [outstanding, (hdone hc).2.2] at hbalance
      exact hbalance
    delivery_done := fun hc _ => ⟨(hdone hc).1, (hdone hc).2.1⟩ }

/-- The loop takes what comes next out of the queue. -/
theorem takeItem (h : s.InOrder) (hactive : s.isActive = true) (hrunning : s.isCancelled = false)
    (hwaiting : s.delivery = .waiting) {item : PlacedEvent} {rest : List PlacedEvent}
    (hitems : s.queue.items = item :: rest) :
    { s with delivery := .holding item, queue := { s.queue with items := rest } }.InOrder := by
  have hbalance := h.balanced hrunning
  simp only [outstanding, hwaiting, hitems, DeliveryPhase.inHand, List.nil_append] at hbalance
  exact
    { h with
      untouched := fun hs => absurd hs (not_early_of_isActive hactive)
      handed := by
        -- What the loop takes comes next, and everything else comes behind it.
        refine ⟨(rest ++ s.engine.pending ++
          s.interpreter.transcript (EngineStep.records s.script)).map PlacedEvent.batch, ?_⟩
        show s.accepted ++ [item].map PlacedEvent.batch ++ _ = s.expected
        rw [← hbalance]
        simp
      balanced := fun _ => hbalance
      delivery_done := nofun }

/-- The consumer is handed what the loop took. -/
theorem handItem (h : s.InOrder) (hactive : s.isActive = true) {item : PlacedEvent}
    (hholding : s.delivery = .holding item) : { s with delivery := .handing item }.InOrder := by
  -- The item is still in the hands of the loop.
  have hinHand : (DeliveryPhase.handing item).inHand = s.delivery.inHand := by rw [hholding]; rfl
  exact
    { h with
      untouched := fun hs => absurd hs (not_early_of_isActive hactive)
      handed := hinHand ▸ h.handed
      balanced := fun hc => by
        have hbalance := h.balanced hc
        simp only [outstanding, ← hinHand] at hbalance
        exact hbalance
      delivery_done := nofun }

/-- The consumer accepts what it was handed. -/
theorem acceptItem (h : s.InOrder) (hactive : s.isActive = true) {item : PlacedEvent}
    (hhanding : s.delivery = .handing item) :
    { s with delivery := .waiting, accepted := s.accepted ++ [item.batch] }.InOrder := by
  have hhanded := h.handed
  simp only [hhanding, DeliveryPhase.inHand] at hhanded
  exact
    { h with
      untouched := fun hs => absurd hs (not_early_of_isActive hactive)
      handed := by
        show (s.accepted ++ [item.batch]) ++ [] <+: s.expected
        rw [List.append_nil]
        exact hhanded
      balanced := fun hc => by
        have hbalance := h.balanced hc
        simp only [outstanding, hhanding, DeliveryPhase.inHand] at hbalance
        show (s.accepted ++ [item.batch]) ++ ([] ++ s.queue.items ++ s.engine.pending ++
          s.interpreter.transcript (EngineStep.records s.script)).map PlacedEvent.batch = s.expected
        -- Accepting moves an event from what is on its way to what has arrived.
        rw [← hbalance]
        simp
      delivery_done := nofun }

/-- What the loop does keeps the order. -/
theorem deliver (h : s.InOrder) (hactive : s.isActive = true) (hmove : DeliveryMove s s') :
    s'.InOrder := by
  cases hmove with
  | take hwaiting hrunning hitems => exact h.takeItem hactive hrunning hwaiting hitems
  | hand hholding => exact (h.handItem hactive hholding).note _
  | finish hend =>
    -- In a session that runs, only a closed and empty queue ends the loop.
    refine h.endDelivery hactive none fun hc => ?_
    rcases hend with ⟨-, hcancelled⟩ | ⟨hwaiting, hclosed, hitems⟩
    · simp [hc] at hcancelled
    · exact ⟨hclosed, hitems, by rw [hwaiting]; rfl⟩
  | accept hhanding =>
    dsimp only
    split
    next => exact (h.acceptItem hactive hhanding).cancel
    next => exact h.acceptItem hactive hhanding
  | reject => exact (h.fail _).endDelivery hactive _ nofun

/-! ## Steps and runs -/

/-- The timer plays no part in the order. -/
theorem beginWrite (h : s.InOrder) (isLast : Bool) : (s.beginWrite isLast).InOrder := by
  obtain ⟨history, timer, heq⟩ := beginWrite_eq s isLast
  rw [heq]
  exact h.aside _ _ _ _ _ _ _

/-- **Preservation**: the balance survives every step of every party. -/
theorem step [Store σ] (h : s.InOrder) {action : SessionAction} (hs : Step s action s') :
    s'.InOrder := by
  cases hs with
  | startAgain => exact h.finish _
  | startStopped hstage hcancelled =>
    have huntouched : s.Untouched := h.untouched (.inl hstage)
    exact (h.setStage .over (fun _ => huntouched) (fun _ => hcancelled) (by simp)).finish _
  | start hstage =>
    exact h.setStage .preparing (fun _ => h.untouched (.inl hstage)) (by simp) (by simp)
  | stop => exact h.cancel
  | @prepare store history name properties hstage =>
    have hread : Untouched
        { s with store, history, stage := .reading, name, runs := s.runs ++ [properties] } :=
      { h.untouched (.inr hstage) with }
    exact (of_untouched hread (by simp) (by simp)).note _
  | @prepareFail store history =>
    have hcancelled := (h.aside store history s.timer s.failure s.runs s.results s.log).cancel
    exact (hcancelled.setStage .over (by simp) (fun _ => rfl) (by simp)).finish _
  | drain _ hengine =>
    exact
      { h with
        untouched := by simp
        cancelled_of_late := by simp
        engine_done := fun _ => hengine
        queue_closed := fun _ => rfl
        delivery_done := fun hc hd => ⟨rfl, (h.delivery_done hc hd).2⟩ }
  | close hstage =>
    -- From here on nothing is on its way, so the session may count as cancelled.
    exact (h.cancel.setStage .closing (by simp) (fun _ => rfl)
      fun _ => h.queue_closed (.inl hstage)).note _
  | finish hstage =>
    exact (h.setStage .over (by simp) (fun _ => h.cancelled_of_late (.inl hstage))
      (by simp)).finish _
  | engine hstage hmove => exact h.engine hstage hmove
  | leave hstage hclosed hengine => exact h.leave hstage hclosed hengine
  | deliver hactive hmove => exact h.deliver hactive hmove
  | tick => exact h.beginWrite false
  | lastWrite => exact h.beginWrite true
  | endWrite => exact h.aside _ _ _ _ _ _ _
  | closeEngine hactive hcancelled =>
    exact
      { h with
        untouched := fun hs => absurd hs (not_early_of_isActive hactive)
        cancelled_of_closed := fun _ => hcancelled }

end InOrder

variable [Store σ]

omit [Store σ] in
theorem inOrder_ofSetup (setup : SessionSetup) (store : σ) (history : SchemaHistory) :
    (ofSetup setup store history).InOrder :=
  InOrder.of_untouched ⟨rfl, rfl, rfl, rfl, rfl, rfl, rfl⟩ (by simp [ofSetup]) (by simp [ofSetup])

theorem inOrder_run (setup : SessionSetup) (store : σ) (history : SchemaHistory)
    (actions : List SessionAction) : ((ofSetup setup store history).run actions).InOrder :=
  run_induction actions (fun _ _ _ _ h hs => h.step hs) (inOrder_ofSetup setup store history)

end Session

end ChangeFeed

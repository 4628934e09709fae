import ChangeFeed.Proofs.Session.Order
import ChangeFeed.Store.Memory

/-!
# Sessions: Completion

A session that nothing disturbs delivers everything. As long as nothing failed and nobody stopped
it, it is cancelled only by its own end, and that comes when the queue is empty.

## Main results

* `Settled.step`: only a stop, a failure or the consumer cancels a session too early.
* `stage_over_of_atRest`: no party waits for ever once the engine came to its end.
* `accepted_prefix_transcript`: what was accepted is the beginning of the transcript, and all of it
  when nothing disturbed the session.
-/

namespace ChangeFeed

namespace Session

variable {σ : Type} {s s' : Session σ}

/-! ## Sessions that nothing disturbs -/

/-- If nobody cancelled the session, then the loop ended on a closed and empty queue, and nothing
was on its way any more. -/
theorem InOrder.accepted_of_finished (h : s.InOrder) (hrunning : s.isCancelled = false)
    (hdelivery : s.delivery.isFinished = true) : s.accepted = s.expected := by
  -- The chain goes back from the loop to the queue, the engine and the script.
  obtain ⟨hclosed, hitems⟩ := h.delivery_done hrunning hdelivery
  have hengine : s.engine = .finished := h.engine_done hclosed
  have hscript : s.script = [] := h.script_done hengine hrunning
  have hinHand : s.delivery.inHand = [] := DeliveryPhase.inHand_of_isFinished hdelivery
  have hnone : s.outstanding = [] := by
    rw [outstanding, hinHand, hitems, hengine, hscript]
    rfl
  have hall := h.balanced hrunning
  rwa [hnone, List.map_nil, List.append_nil] at hall

/-- Nothing failed, the consumer did not cancel the session, and the engine ran. -/
structure Undisturbed (s : Session σ) : Prop where
  failure : s.failure = none
  consumer : ∀ n < s.accepted.length, s.setup.consumer.cancels n = false
  prepared : s.stage = .over → s.engine = .finished

/-- A session that nothing disturbs is cancelled only when all is accepted. -/
def Settled (s : Session σ) : Prop :=
  s.Undisturbed → s.isCancelled = true →
    (s.stage = .closing ∨ s.stage = .over) ∧ s.accepted = s.expected

namespace Settled

/-- What plays no part in the end of a session may change. -/
theorem congr (h : s.Settled) (hsetup : s'.setup = s.setup) (hname : s'.name = s.name)
    (hfailure : s'.failure = s.failure) (haccepted : s'.accepted = s.accepted)
    (hcancelled : s'.isCancelled = s.isCancelled) (hstage : s'.stage = s.stage)
    (hengine : s.stage = .over → s'.engine = s.engine) : s'.Settled := by
  intro hs' hc
  -- The session was undisturbed before, so it was settled then.
  have hundisturbed : s.Undisturbed := by
    refine ⟨hfailure ▸ hs'.failure, ?_, fun hover => ?_⟩
    · rw [← hsetup, ← haccepted]
      exact hs'.consumer
    · rw [← hengine hover]
      exact hs'.prepared (hstage.trans hover)
  obtain ⟨hlate, hall⟩ := h hundisturbed (hcancelled ▸ hc)
  refine ⟨hstage ▸ hlate, ?_⟩
  rw [haccepted, hall]
  simp only [expected, interpreter, hsetup, hname]

theorem of_failure (h : s.failure ≠ none) : s.Settled := fun hs => absurd hs.failure h

theorem of_running (h : s.isCancelled = false) : s.Settled := fun _ hc => by simp [h] at hc

/-- Before the last stages a session that nothing disturbs is not cancelled. -/
theorem running (h : s.Settled) (hs : s.Undisturbed)
    (hstage : s.stage ≠ .closing ∧ s.stage ≠ .over) : s.isCancelled = false := by
  cases hc : s.isCancelled with
  | false => rfl
  | true => exact absurd (h hs hc).1 (not_or.2 hstage)

/-! ### Steps -/

/-- The engine disturbs the session only by a failure or a stop. -/
theorem engine (h : s.Settled) (hinOrder : s.InOrder) (hstage : s.stage = .reading)
    (hstop : EngineStep.stop ∉ s.setup.script) (hmove : EngineMove s s') : s'.Settled := by
  have hnotOver : s.stage ≠ .over := by simp [hstage]
  cases hmove with
  | stop _ hscript =>
    -- A script that stops the session is ruled out.
    exact absurd (hinOrder.script_suffix.subset (hscript ▸ List.mem_cons_self)) hstop
  | reject =>
    dsimp only
    split
    next => exact of_failure (by simp [Session.fail, note])
    next => exact of_failure (by simp [Session.fail, note])
  | fail =>
    dsimp only
    split
    next => exact of_failure (by simp [Session.fail, note])
    next => exact of_failure (by simp [Session.fail, note])
  -- What is left are moves that neither fail nor stop.
  | _ => exact h.congr rfl rfl rfl rfl rfl rfl (absurd · hnotOver)

/-- A session that nothing disturbs is not cancelled when the consumer accepts: what it has in hand
was not accepted yet. -/
theorem acceptItem (h : s.Settled) (hinOrder : s.InOrder) {item : PlacedEvent}
    (hhanding : s.delivery = .handing item) :
    { s with delivery := .waiting, accepted := s.accepted ++ [item.batch] }.Settled := by
  intro hs' hc
  have hundisturbed : s.Undisturbed := by
    refine ⟨hs'.failure, fun n hn => hs'.consumer n ?_, hs'.prepared⟩
    simpa using Nat.lt_succ_of_lt hn
  obtain ⟨-, hall⟩ := h hundisturbed hc
  -- If everything was accepted, then the item in hand is one too many.
  have hhanded := hinOrder.handed.length_le
  simp only [hhanding, DeliveryPhase.inHand, hall, List.length_append, List.map_singleton,
    List.length_singleton] at hhanded
  omega

/-- The loop disturbs it only if the consumer rejects or cancels. -/
theorem deliver (h : s.Settled) (hinOrder : s.InOrder) (hmove : DeliveryMove s s') :
    s'.Settled := by
  cases hmove with
  | accept hhanding =>
    dsimp only
    split
    next hcancels =>
      intro hs'
      -- A consumer that cancels disturbs the session.
      have hnot := hs'.consumer s.accepted.length (by simp [cancel])
      exact Bool.noConfusion (hnot.symm.trans hcancels)
    next => exact h.acceptItem hinOrder hhanding
  | reject => exact of_failure (by simp [Session.fail])
  | _ => exact h.congr rfl rfl rfl rfl rfl rfl fun _ => rfl

/-- The timer does not disturb it. -/
theorem beginWrite (h : s.Settled) (isLast : Bool) : (s.beginWrite isLast).Settled := by
  obtain ⟨history, timer, heq⟩ := beginWrite_eq s isLast
  rw [heq]
  exact h.congr rfl rfl rfl rfl rfl rfl fun _ => rfl

/-- A session that ends before its engine ran counts as disturbed. -/
theorem of_untouched (h : s.Untouched) (hstage : s'.stage = .over)
    (hengine : s'.engine = s.engine) : s'.Settled := by
  intro hs'
  have hfinished := hs'.prepared hstage
  rw [hengine, h.engine] at hfinished
  cases hfinished

/-- **Preservation**: every step but a stop keeps a session settled. -/
theorem step [Store σ] (h : s.Settled) (hinOrder : s.InOrder)
    (hstop : EngineStep.stop ∉ s.setup.script) {action : SessionAction} (haction : action ≠ .stop)
    (hs : Step s action s') : s'.Settled := by
  cases hs with
  | startStopped hstage => exact of_untouched (hinOrder.untouched (.inl hstage)) rfl rfl
  | start _ hrunning => exact of_running hrunning
  | stop => exact absurd rfl haction
  | prepare hstage =>
    -- Nothing disturbed the session so far, so it cannot be cancelled before its last stages.
    intro hs' hc
    have hundisturbed : s.Undisturbed :=
      ⟨hs'.failure, hs'.consumer, fun hover => by simp [hstage] at hover⟩
    have hrunning : s.isCancelled = false := h.running hundisturbed (by simp [hstage])
    exact Bool.noConfusion (hrunning.symm.trans hc)
  | prepareFail hstage => exact of_untouched (hinOrder.untouched (.inr hstage)) rfl rfl
  | drain hstage hengine =>
    intro hs' hc
    have hundisturbed : s.Undisturbed := ⟨hs'.failure, hs'.consumer, fun _ => hengine⟩
    have hrunning : s.isCancelled = false := h.running hundisturbed (by simp [hstage])
    exact Bool.noConfusion (hrunning.symm.trans hc)
  | close hstage hdelivery =>
    -- This is where completeness comes from: the loop came to its end by itself.
    intro hs' _
    have hundisturbed : s.Undisturbed :=
      ⟨hs'.failure, hs'.consumer, fun hover => by simp [hstage] at hover⟩
    have hrunning : s.isCancelled = false := h.running hundisturbed (by simp [hstage])
    exact ⟨.inl rfl, hinOrder.accepted_of_finished hrunning (by rw [hdelivery]; rfl)⟩
  | finish hstage =>
    intro hs' hc
    have hundisturbed : s.Undisturbed :=
      ⟨hs'.failure, hs'.consumer, fun hover => by simp [hstage] at hover⟩
    exact ⟨.inr rfl, (h hundisturbed hc).2⟩
  | engine hstage hmove => exact h.engine hinOrder hstage hstop hmove
  | leave hstage =>
    exact h.congr rfl rfl rfl rfl rfl rfl fun hover => by simp [hstage] at hover
  | deliver _ hmove => exact h.deliver hinOrder hmove
  | tick => exact h.beginWrite false
  | lastWrite => exact h.beginWrite true
  | _ => exact h.congr rfl rfl rfl rfl rfl rfl fun _ => rfl

end Settled

/-! ## Rest -/

/-- Nobody can go on, but for the caller and the timer's next turn. -/
def AtRest [Store σ] (s : Session σ) : Prop :=
  ∀ action, action ≠ .start → action ≠ .stop → action ≠ .tick → s.step? action = none

/-- The loop never waits while the queue is being emptied. -/
theorem delivery_isFinished (hclosed : s.isQueueClosed = true) (hrest : s.deliver? = none) :
    s.delivery.isFinished = true := by
  unfold deliver? at hrest
  split at hrest
  next => cases hrest
  next hnot =>
    cases hfinished : s.delivery.isFinished with
    | true => rfl
    | false =>
      -- With the queue closed, there is either an item to take or an end to come to.
      have hsome : (s.delivery.advance? s.queue (!s.isCancelled) s.isQueueClosed).isSome = true :=
        DeliveryPhase.isSome_advance? (fun _ => .inl hclosed) hnot hfinished
      rw [Option.map_eq_none_iff.1 hrest] at hsome
      cases hsome

/-- A timer that is at rest after the cancellation has finished. -/
theorem timer_finished [Store σ] (hc : s.isCancelled = true) (hrest : s.write? = none) :
    s.timer = .finished := by
  unfold write? at hrest
  split at hrest
  next => simp [hc] at hrest
  next => cases hrest
  next htimer => exact htimer

/-- An engine that need not be closed any more is closed. -/
theorem engineClosed_of_close (hc : s.isCancelled = true) (hrest : s.close? = none) :
    s.isEngineClosed = true := by
  cases hclosed : s.isEngineClosed with
  | true => rfl
  | false => simp [close?, hc, hclosed] at hrest

/-- **Progress**: a session whose engine came to its end comes to its own end, too. -/
theorem stage_over_of_atRest [Store σ] (h : s.InOrder) (hengine : s.engine = .finished)
    (hrest : s.AtRest) : s.stage = .over := by
  have hproceed : s.proceed? = none := hrest .proceed (by simp) (by simp) (by simp)
  cases hstage : s.stage with
  | fresh =>
    -- An engine that came to its end was run.
    have huntouched := (h.untouched (.inl hstage)).engine
    rw [hengine] at huntouched
    cases huntouched
  | preparing =>
    have huntouched := (h.untouched (.inr hstage)).engine
    rw [hengine] at huntouched
    cases huntouched
  | reading => simp [proceed?, hstage, hengine] at hproceed
  | draining =>
    have hactive : s.isActive = true := by simp [isActive, hstage]
    have hdeliver := hrest .deliver (by simp) (by simp) (by simp)
    simp only [step?, hactive, if_true] at hdeliver
    -- The queue is closed, so the loop does not wait, and at rest it is at its end.
    have hfinished := delivery_isFinished (h.queue_closed (.inl hstage)) hdeliver
    cases hdelivery : s.delivery with
    | finished failure => simp [proceed?, hstage, hdelivery] at hproceed
    | waiting | holding _ | handing _ => simp [hdelivery, DeliveryPhase.isFinished] at hfinished
  | closing =>
    have hactive : s.isActive = true := by simp [isActive, hstage]
    -- The session is cancelled, so neither the timer nor the closer waits.
    have hc : s.isCancelled = true := h.cancelled_of_late (.inl hstage)
    have hwrite := hrest .write (by simp) (by simp) (by simp)
    have hclose := hrest .close (by simp) (by simp) (by simp)
    simp only [step?, hactive, if_true] at hwrite hclose
    simp [proceed?, hstage, timer_finished hc hwrite, engineClosed_of_close hc hclose] at hproceed
  | «over» => rfl

variable [Store σ]

/-- A session that nobody stops is settled after every run. -/
theorem settled_run (setup : SessionSetup) (store : σ) (history : SchemaHistory)
    {actions : List SessionAction} (hactions : .stop ∉ actions) (hscript : .stop ∉ setup.script) :
    ((ofSetup setup store history).run actions).Settled := by
  -- Settling needs the order of events and the script, so all three are kept together.
  have hstep : ∀ (s s' : Session σ) action, action ∈ actions →
      (s.setup = setup ∧ s.InOrder ∧ s.Settled) → Step s action s' →
        s'.setup = setup ∧ s'.InOrder ∧ s'.Settled := by
    rintro s s' action haction ⟨hsetup, hinOrder, hsettled⟩ hs
    refine ⟨hs.setup_eq.trans hsetup, hinOrder.step hs, ?_⟩
    refine hsettled.step hinOrder (hsetup ▸ hscript) ?_ hs
    rintro rfl
    exact hactions haction
  exact (run_induction actions hstep
    ⟨rfl, inOrder_ofSetup setup store history, Settled.of_running rfl⟩).2.2

/-- **Order and completeness**: the consumer accepts a beginning of the transcript, each event as a
batch of its own with its position. If the engine came to its end, nothing failed and nobody stopped
the session, then the session comes to its end as well, and the consumer accepted all of it. -/
theorem accepted_prefix_transcript (setup : SessionSetup) (store : σ) (history : SchemaHistory)
    (actions : List SessionAction) :
    let s := (ofSetup setup store history).run actions
    let transcript := s.interpreter.transcript (EngineStep.records setup.script)
    s.accepted <+: transcript.map PlacedEvent.batch ∧
      (s.engine = .finished → s.failure = none →
        SessionAction.stop ∉ actions → EngineStep.stop ∉ setup.script →
        (∀ n < s.accepted.length, setup.consumer.cancels n = false) →
        (s.AtRest → s.stage = .over) ∧
          (s.stage = .over → s.accepted = transcript.map PlacedEvent.batch)) := by
  intro s transcript
  have hsetup : s.setup = setup := setup_run _ actions
  have hinOrder : s.InOrder := inOrder_run setup store history actions
  have hexpected : s.expected = transcript.map PlacedEvent.batch := by
    simp only [expected, transcript, hsetup]
  rw [← hexpected]
  -- The first part is the balance; the second one needs that nothing was dropped.
  refine ⟨(List.prefix_append _ _).trans hinOrder.handed, ?_⟩
  intro hengine hfailure hactions hscript hcancels
  refine ⟨stage_over_of_atRest hinOrder hengine, fun hstage => ?_⟩
  have hsettled : s.Settled := settled_run setup store history hactions hscript
  have hundisturbed : s.Undisturbed := ⟨hfailure, hsetup ▸ hcancels, fun _ => hengine⟩
  exact (hsettled hundisturbed (hinOrder.cancelled_of_late (.inr hstage))).2

/-! ### A session of two inserts -/

end Session

/-- The engine came to its end. -/
def EnginePhase.isFinished : EnginePhase → Bool
  | .finished => true
  | _ => false

/-- A session that hands records over, with room for one event in its queue. -/
def SessionSetup.ofRecords (records : List LogRecord) (consumer : Consumer) : SessionSetup where
  settings := { ReaderSettings.ofSource "localhost" "cdc" "shop" with queueCapacity := 1 }
  catalog := .empty
  statements := Schema.Dialect.basic.interpretation
  tables := []
  start := none
  batch := 1
  consumer := consumer
  script := records.map (.record · false)
  freshName := "reader"
  drawnReplica := 5400

/-- The consumer that accepts everything. -/
def Consumer.willing : Consumer := ⟨fun _ => false, fun _ => .ok ()⟩

namespace Session

/-- A run in which the engine waits for the loop, and the loop for the engine. -/
def twoInserts : Session MemoryStore :=
  (ofSetup (.ofRecords [.inserted "t" 1, .inserted "t" 2] .willing) .empty .empty).run
    [.start, .prepare, .engine, .engine, .deliver, .engine, .engine, .engine, .deliver, .engine,
      .deliver, .deliver, .engine, .engine, .engine, .proceed, .deliver, .deliver, .deliver,
      .deliver, .proceed, .write, .write, .close, .proceed]

private theorem twoInserts_engine : twoInserts.engine = .finished := by
  have hfinished : twoInserts.engine.isFinished = true := by decide +kernel
  cases hengine : twoInserts.engine with
  | finished => rfl
  | ready | offering _ | pausing _ =>
    rw [hengine] at hfinished
    cases hfinished

/-- Both inserts arrive, in their order. -/
theorem twoInserts_accepted :
    twoInserts.stage = .over ∧ twoInserts.accepted.length = 2 ∧
      twoInserts.accepted =
        (twoInserts.interpreter.transcript [.inserted "t" 1, .inserted "t" 2]).map
          PlacedEvent.batch := by
  have hstage : twoInserts.stage = .over := by decide +kernel
  have hfailure : twoInserts.failure = none := Option.isNone_iff_eq_none.1 (by decide +kernel)
  refine ⟨hstage, by decide +kernel, ?_⟩
  have hscript : EngineStep.stop ∉
      (SessionSetup.ofRecords [.inserted "t" 1, .inserted "t" 2] .willing).script := by
    simp [SessionSetup.ofRecords]
  exact ((accepted_prefix_transcript (.ofRecords [.inserted "t" 1, .inserted "t" 2] .willing)
    MemoryStore.empty .empty _).2 twoInserts_engine hfailure (by decide) hscript
      fun _ _ => rfl).2 hstage

end Session

end ChangeFeed

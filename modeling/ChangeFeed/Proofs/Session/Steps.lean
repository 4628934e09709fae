import ChangeFeed.Proofs.Delivery
import ChangeFeed.Session

/-!
# Sessions: Steps

Everything that a step of a session can do, with what it asks for, and how a fact about single
steps becomes one about whole runs. A property of sessions is shown case by case along `Step`, with
no need to look into the functions behind it.

## Main results

* `Step.of_step?`: a step of a party is one of the steps listed here.
* `run_induction`: what every step preserves holds after every run.
-/

namespace ChangeFeed.Session

variable {σ : Type}

/-! ## The steps of the parties -/

/-- What the engine can do while the session reads. -/
inductive EngineMove (s : Session σ) : Session σ → Prop where
  /-- It comes to the end of its script. -/
  | complete (hengine : s.engine = .ready) (hscript : s.script = []) :
      EngineMove s { s.note (.reported true) with engine := .finished }
  /-- It hands a record over that nobody wants any more. -/
  | ignore {record : LogRecord} {isLenient : Bool} {script : List EngineStep}
      (hengine : s.engine = .ready) (hscript : s.script = .record record isLenient :: script)
      (hcancelled : s.isCancelled = true) :
      EngineMove s { s with script, engine := .pausing recordPause }
  /-- It hands a record over that becomes events. -/
  | interpret {record : LogRecord} {isLenient : Bool} {script : List EngineStep}
      {events : List PlacedEvent} {history : SchemaHistory} (hengine : s.engine = .ready)
      (hscript : s.script = .record record isLenient :: script) (hrunning : s.isCancelled = false)
      (hevents : s.interpreter.interpret s.history record = (.ok events, history)) :
      EngineMove s { s with script, history, engine := .offering events }
  /-- A record of it fails, which it takes as the end or not. -/
  | reject {record : LogRecord} {isLenient : Bool} {script : List EngineStep} {e : Error}
      {history : SchemaHistory} (hengine : s.engine = .ready)
      (hscript : s.script = .record record isLenient :: script) (hrunning : s.isCancelled = false)
      (herror : s.interpreter.interpret s.history record = (.error e, history)) :
      EngineMove s <|
        let told : Error := .engine e.message
        let rejected := ({ s with script, history }.fail e).note (.rejected told)
        if isLenient then { rejected with engine := .pausing recordPause }
        else
          { rejected.fail (engineFailure "Record handling failed" (some told)) with
            engine := .finished }
  | malformed {fault : Error} {script : List EngineStep} (hengine : s.engine = .ready)
      (hscript : s.script = .malformed fault :: script) :
      EngineMove s ({ s with script }.note (.malformed fault))
  | stop {script : List EngineStep} (hengine : s.engine = .ready)
      (hscript : s.script = .stop :: script) :
      EngineMove s ({ s with script }.cancel.note (.stopped !{ s with script }.cancel.isRunning))
  | observe {script : List EngineStep} (hengine : s.engine = .ready)
      (hscript : s.script = .observe :: script) :
      EngineMove s ({ s with script }.note (.observed { s with script }.isRunning))
  | awaitClose {script : List EngineStep} (hengine : s.engine = .ready)
      (hscript : s.script = .awaitClose :: script) (hclosed : s.isEngineClosed = true) :
      EngineMove s { s with script }
  | sleep {duration : Nat} {script : List EngineStep} (hengine : s.engine = .ready)
      (hscript : s.script = .sleep duration :: script) :
      EngineMove s { s with script, engine := .pausing duration }
  /-- It reports a failure, and goes on or not. -/
  | fail {message : String} {cause : Option Error} {goesOn : Bool} {script : List EngineStep}
      (hengine : s.engine = .ready) (hscript : s.script = .fail message cause goesOn :: script) :
      EngineMove s <|
        let failed := ({ s with script }.note (.reported false)).fail (engineFailure message cause)
        if goesOn then failed else { failed with engine := .finished }
  /-- All events of its record are in the queue. -/
  | pause (hengine : s.engine = .offering []) :
      EngineMove s { s with engine := .pausing recordPause }
  /-- It drops the events that nobody wants any more. -/
  | drop {event : PlacedEvent} {events : List PlacedEvent}
      (hengine : s.engine = .offering (event :: events)) (hcancelled : s.isCancelled = true) :
      EngineMove s { s with engine := .pausing recordPause }
  /-- The next event finds a place in the queue. -/
  | offer {event : PlacedEvent} {events : List PlacedEvent} {queue : BoundedQueue PlacedEvent}
      (hengine : s.engine = .offering (event :: events)) (hrunning : s.isCancelled = false)
      (hoffer : s.queue.offer? event = some queue) :
      EngineMove s { s with queue, engine := .offering events }
  | resume {duration : Nat} (hengine : s.engine = .pausing duration) :
      EngineMove s { s with engine := .ready }

/-- What the delivery loop can do. -/
inductive DeliveryMove (s : Session σ) : Session σ → Prop where
  /-- It takes an event out of the queue. -/
  | take {item : PlacedEvent} {items : List PlacedEvent} (hwaiting : s.delivery = .waiting)
      (hrunning : s.isCancelled = false) (hitems : s.queue.items = item :: items) :
      DeliveryMove s { s with delivery := .holding item, queue := { s.queue with items } }
  /-- It hands the consumer what it took. -/
  | hand {item : PlacedEvent} (hholding : s.delivery = .holding item)
      (hrunning : s.isCancelled = false) :
      DeliveryMove s ({ s with delivery := .handing item }.note (.accept item.batch))
  /-- It ends because the session is cancelled, or with the queue. -/
  | finish (hend : (s.delivery = .waiting ∨ ∃ item, s.delivery = .holding item) ∧
          s.isCancelled = true ∨
        s.delivery = .waiting ∧ s.isQueueClosed = true ∧ s.queue.items = []) :
      DeliveryMove s { s with delivery := .finished none }
  /-- The consumer accepts, and may cancel the session with the same breath. -/
  | accept {item : PlacedEvent} (hhanding : s.delivery = .handing item)
      (hanswer : s.setup.consumer.answer s.accepted.length = .ok ()) :
      DeliveryMove s <|
        let accepted := { s with delivery := .waiting, accepted := s.accepted ++ [item.batch] }
        if s.setup.consumer.cancels s.accepted.length then accepted.cancel else accepted
  /-- It ends because the consumer rejects. -/
  | reject {item : PlacedEvent} {e : Error} (hhanding : s.delivery = .handing item)
      (hanswer : s.setup.consumer.answer s.accepted.length = .error e) :
      DeliveryMove s { s.fail e with delivery := .finished (some e) }

/-- A loop that comes to its end unasked is between two answers: it waits for an event, or it holds
one. -/
theorem waiting_or_holding_of_end {s : Session σ} {isCancelled isDrained : Prop}
    (hend : (s.delivery = .waiting ∨ ∃ item, s.delivery = .holding item) ∧ isCancelled ∨
      s.delivery = .waiting ∧ isDrained) :
    s.delivery = .waiting ∨ ∃ item, s.delivery = .holding item := by
  rcases hend with ⟨hbetween, -⟩ | ⟨hwaiting, -⟩
  · exact hbetween
  · exact .inl hwaiting

/-- What a session can do. -/
inductive Step [Store σ] (s : Session σ) : SessionAction → Session σ → Prop where
  | startAgain (hstage : s.stage ≠ .fresh) :
      Step s .start (s.finish (.error (.invalidState "stream session already started")))
  | startStopped (hstage : s.stage = .fresh) (hcancelled : s.isCancelled = true) :
      Step s .start ({ s with stage := .over }.finish (.ok ()))
  | start (hstage : s.stage = .fresh) (hrunning : s.isCancelled = false) :
      Step s .start { s with stage := .preparing }
  | stop : Step s .stop s.cancel
  | prepare {store : σ} {history : SchemaHistory} {name : String} {properties : EngineProperties}
      (hstage : s.stage = .preparing)
      (hprepared : s.preparation = (.ok (name, properties), { s with store, history })) :
      Step s .prepare <| note
        { s with store, history, stage := .reading, name, runs := s.runs ++ [properties] } .started
  | prepareFail {store : σ} {history : SchemaHistory} {e : Error} (hstage : s.stage = .preparing)
      (hprepared : s.preparation = (.error e, { s with store, history })) :
      Step s .prepare <| finish
        { { s with store, history }.cancel with stage := .over } (.error e)
  /-- The engine came to its end: nothing comes into the queue any more. -/
  | drain (hstage : s.stage = .reading) (hengine : s.engine = .finished) :
      Step s .proceed { s with stage := .draining, isQueueClosed := true }
  /-- The delivery loop came to its end. -/
  | close {failure : Option Error} (hstage : s.stage = .draining)
      (hdelivery : s.delivery = .finished failure) :
      Step s .proceed ({ s with stage := .closing }.note .ended).cancel
  /-- The timer and the closer came to their ends. -/
  | finish (hstage : s.stage = .closing) (htimer : s.timer = .finished)
      (hclosed : s.isEngineClosed = true) :
      Step s .proceed ({ s with stage := .over }.finish (s.failure.elim (.ok ()) .error))
  | engine {s' : Session σ} (hstage : s.stage = .reading) (hmove : EngineMove s s') :
      Step s .engine s'
  /-- An engine that was closed ends between two steps of its script. -/
  | leave (hstage : s.stage = .reading) (hclosed : s.isEngineClosed = true)
      (hengine : s.engine = .ready ∨ ∃ duration, s.engine = .pausing duration) :
      Step s .leave { s.note (.reported true) with engine := .finished }
  | deliver {s' : Session σ} (hactive : s.isActive = true) (hmove : DeliveryMove s s') :
      Step s .deliver s'
  | tick (hactive : s.isActive = true) (htimer : s.timer = .idle) :
      Step s .tick (s.beginWrite false)
  | lastWrite (hactive : s.isActive = true) (htimer : s.timer = .idle)
      (hcancelled : s.isCancelled = true) : Step s .write (s.beginWrite true)
  | endWrite {capture : HistoryCapture} {isLast : Bool} {result : Result Unit} {store : σ}
      (hactive : s.isActive = true) (htimer : s.timer = .writing capture isLast)
      (hput : (SchemaHistory.put capture).run s.store = (result, store)) :
      Step s .write
        { s with
          store
          history := s.history.endWrite result.isOk
          timer := if isLast then .finished else .idle }
  | closeEngine (hactive : s.isActive = true) (hcancelled : s.isCancelled = true)
      (hclosed : s.isEngineClosed = false) : Step s .close { s with isEngineClosed := true }

/-! ## Every step is one of these -/

variable {s s' : Session σ}

/-- A record is ignored, becomes events or is rejected. -/
theorem EngineMove.of_receive (hengine : s.engine = .ready) {record : LogRecord}
    {isLenient : Bool} {script : List EngineStep}
    (hscript : s.script = .record record isLenient :: script) :
    EngineMove s ({ s with script }.receive record isLenient) := by
  -- A record is ignored once the session is cancelled; before that its interpretation decides.
  unfold receive
  split
  next hcancelled => exact .ignore hengine hscript hcancelled
  next hrunning =>
    have hrunning : s.isCancelled = false := by simpa using hrunning
    split
    next events history hevents => exact .interpret hengine hscript hrunning hevents
    next e history herror => exact .reject hengine hscript hrunning herror

/-- Each step of the script has a move of its own. -/
theorem EngineMove.of_follow? (hengine : s.engine = .ready) {step : EngineStep}
    {script : List EngineStep} (hscript : s.script = step :: script)
    (hs : { s with script }.follow? step = some s') : EngineMove s s' := by
  -- Each entry of a script is a move of its own, and only one of them may have to wait.
  cases step with
  | record record isLenient => exact Option.some.inj hs ▸ .of_receive hengine hscript
  | malformed fault => exact Option.some.inj hs ▸ .malformed hengine hscript
  | stop => exact Option.some.inj hs ▸ .stop hengine hscript
  | observe => exact Option.some.inj hs ▸ .observe hengine hscript
  | awaitClose =>
    obtain ⟨hclosed, hs⟩ := Option.ite_none_right_eq_some.1 hs
    exact Option.some.inj hs ▸ .awaitClose hengine hscript hclosed
  | sleep duration => exact Option.some.inj hs ▸ .sleep hengine hscript
  | fail message cause goesOn => exact Option.some.inj hs ▸ .fail hengine hscript

/-- What the engine does is one of its moves. -/
theorem EngineMove.of_engine? (hs : s.engine? = some s') : EngineMove s s' := by
  unfold engine? at hs
  split at hs
  next hengine =>
    -- An engine that is ready does the next step of its script, if there is one.
    split at hs
    next hscript => exact Option.some.inj hs ▸ .complete hengine hscript
    next hscript => exact .of_follow? hengine hscript hs
  next hengine => exact Option.some.inj hs ▸ .pause hengine
  next hengine =>
    -- The other parties decide what becomes of the events: a cancelled session drops them.
    split at hs
    next hcancelled => exact Option.some.inj hs ▸ .drop hengine hcancelled
    next hrunning =>
      obtain ⟨queue, hoffer, rfl⟩ := Option.map_eq_some_iff.1 hs
      exact .offer hengine (by simpa using hrunning) hoffer
  next hengine => exact Option.some.inj hs ▸ .resume hengine
  next => cases hs

/-- The answer of the consumer accepts or rejects the item. -/
theorem DeliveryMove.of_answered {item : PlacedEvent} (hhanding : s.delivery = .handing item) :
    DeliveryMove s (s.answered item) := by
  -- Whether the consumer cancels the session first makes no difference to where the loop goes.
  cases hanswer : s.setup.consumer.answer s.accepted.length with
  | ok _ =>
    have heq : s.answered item =
        let accepted := { s with delivery := .waiting, accepted := s.accepted ++ [item.batch] }
        if s.setup.consumer.cancels s.accepted.length then accepted.cancel else accepted := by
      simp only [answered, hanswer, DeliveryPhase.afterAnswer]
      split <;> rfl
    exact heq ▸ .accept hhanding hanswer
  | error e =>
    have heq : s.answered item = { s.fail e with delivery := .finished (some e) } := by
      simp only [answered, hanswer, DeliveryPhase.afterAnswer]
      split <;> rfl
    exact heq ▸ .reject hhanding hanswer

/-- What the loop does is one of its moves. -/
theorem DeliveryMove.of_deliver? (hs : s.deliver? = some s') : DeliveryMove s s' := by
  unfold deliver? at hs
  split at hs
  next item hhanding => exact Option.some.inj hs ▸ .of_answered hhanding
  next =>
    obtain ⟨⟨phase, queue⟩, hadvance, rfl⟩ := Option.map_eq_some_iff.1 hs
    -- Without an answer to wait for, the loop goes on by itself.
    obtain ⟨item, items, hwaiting, hrunning, hitems, rfl, rfl⟩ |
      ⟨item, hholding, hrunning, rfl, rfl⟩ | ⟨rfl, rfl, hend⟩ :=
      DeliveryPhase.advance?_cases hadvance
    · exact .take hwaiting (by simpa using hrunning) hitems
    · exact .hand hholding (by simpa using hrunning)
    · exact .finish (by simpa using hend)

/-- A preparation reaches for the store and the history and for nothing else. -/
theorem preparation_snd [Store σ] (s : Session σ) :
    ∃ store history, s.preparation.2 = { s with store, history } := by
  unfold preparation
  -- The task is registered first; only then is the history loaded.
  dsimp only
  split
  next registration _ _ =>
    cases registration with
    | error e => exact ⟨_, _, rfl⟩
    | ok registration =>
      dsimp only
      split
      next loaded _ _ =>
        cases loaded with
        | error e => exact ⟨_, _, rfl⟩
        | ok loaded => exact ⟨_, _, rfl⟩

namespace Step

variable [Store σ]

/-- A start finds a session that was started before, one that was stopped, or a fresh one. -/
theorem of_start (s : Session σ) : Step s .start s.start := by
  unfold Session.start
  split
  next hstage => exact .startAgain hstage
  next hstage =>
    have hfresh : s.stage = .fresh := Decidable.not_not.1 hstage
    split
    next hcancelled => exact .startStopped hfresh hcancelled
    next hrunning => exact .start hfresh (by simpa using hrunning)

/-- A preparation succeeds or fails. -/
theorem of_prepare (hstage : s.stage = .preparing) : Step s .prepare s.prepare := by
  -- What is prepared differs from the session in its store and its history only.
  obtain ⟨store, history, hsnd⟩ := preparation_snd s
  unfold Session.prepare
  split
  next name properties prepared heq =>
    obtain rfl : prepared = { s with store, history } := by rw [← hsnd, heq]
    exact .prepare hstage heq
  next e prepared heq =>
    obtain rfl : prepared = { s with store, history } := by rw [← hsnd, heq]
    exact .prepareFail hstage heq

/-- Each stage goes on to the next one under a condition of its own. -/
theorem of_proceed? (hs : s.proceed? = some s') : Step s .proceed s' := by
  unfold proceed? at hs
  split at hs
  next hstage hengine => exact Option.some.inj hs ▸ .drain hstage hengine
  next hstage hdelivery => exact Option.some.inj hs ▸ .close hstage hdelivery
  next hstage htimer =>
    obtain ⟨hclosed, hs⟩ := Option.ite_none_right_eq_some.1 hs
    exact Option.some.inj hs ▸ .finish hstage htimer hclosed
  next => cases hs

/-- The engine is left behind only once it was told to close. -/
theorem of_leave? (hstage : s.stage = .reading) (hs : s.leave? = some s') :
    Step s .leave s' := by
  -- An engine can leave when it is ready or pauses, as soon as it is told to close.
  unfold leave? at hs
  split at hs
  next hengine =>
    obtain ⟨hclosed, hs⟩ := Option.ite_none_right_eq_some.1 hs
    exact Option.some.inj hs ▸ .leave hstage hclosed (.inl hengine)
  next hengine =>
    obtain ⟨hclosed, hs⟩ := Option.ite_none_right_eq_some.1 hs
    exact Option.some.inj hs ▸ .leave hstage hclosed (.inr ⟨_, hengine⟩)
  next => cases hs
  next => cases hs

/-- The timer goes off while it is idle. -/
theorem of_tick? (hactive : s.isActive = true) (hs : s.tick? = some s') : Step s .tick s' := by
  unfold tick? at hs
  split at hs
  next htimer => exact Option.some.inj hs ▸ .tick hactive htimer
  next => cases hs
  next => cases hs

/-- The last put of the timer waits for the cancellation. -/
theorem of_write? (hactive : s.isActive = true) (hs : s.write? = some s') : Step s .write s' := by
  unfold write? at hs
  split at hs
  next htimer =>
    obtain ⟨hcancelled, hs⟩ := Option.ite_none_right_eq_some.1 hs
    exact Option.some.inj hs ▸ .lastWrite hactive htimer hcancelled
  next htimer => exact Option.some.inj hs ▸ .endWrite hactive htimer rfl
  next => cases hs

/-- A session that is cancelled closes its engine, once. -/
theorem of_close? (hactive : s.isActive = true) (hs : s.close? = some s') : Step s .close s' := by
  obtain ⟨hguard, hs⟩ := Option.ite_none_right_eq_some.1 hs
  simp only [Bool.and_eq_true, Bool.not_eq_true'] at hguard
  exact Option.some.inj hs ▸ .closeEngine hactive hguard.1 hguard.2

/-- **Inversion**: a step of a party is one of the steps listed here. -/
theorem of_step? {action : SessionAction} (hs : s.step? action = some s') : Step s action s' := by
  -- Every action is done in certain stages only, which is what the step keeps of its guard.
  cases action with
  | start => exact Option.some.inj hs ▸ of_start s
  | stop => exact Option.some.inj hs ▸ .stop
  | prepare =>
    obtain ⟨hstage, hs⟩ := Option.ite_none_right_eq_some.1 hs
    exact Option.some.inj hs ▸ of_prepare hstage
  | proceed => exact of_proceed? hs
  | engine =>
    obtain ⟨hstage, hs⟩ := Option.ite_none_right_eq_some.1 hs
    exact .engine hstage (.of_engine? hs)
  | leave =>
    obtain ⟨hstage, hs⟩ := Option.ite_none_right_eq_some.1 hs
    exact of_leave? hstage hs
  | deliver =>
    obtain ⟨hactive, hs⟩ := Option.ite_none_right_eq_some.1 hs
    exact .deliver hactive (.of_deliver? hs)
  | tick =>
    obtain ⟨hactive, hs⟩ := Option.ite_none_right_eq_some.1 hs
    exact of_tick? hactive hs
  | write =>
    obtain ⟨hactive, hs⟩ := Option.ite_none_right_eq_some.1 hs
    exact of_write? hactive hs
  | close =>
    obtain ⟨hactive, hs⟩ := Option.ite_none_right_eq_some.1 hs
    exact of_close? hactive hs

end Step

/-! ## What every step has in common -/

/-- An engine that came to its end does nothing more. -/
theorem EngineMove.engine_ne_finished (h : EngineMove s s') : s.engine ≠ .finished := by
  cases h <;> simp [*]

/-- A write that begins changes what the history and the timer know of it. -/
theorem beginWrite_eq (s : Session σ) (isLast : Bool) :
    ∃ history timer, s.beginWrite isLast = { s with history, timer } := by
  unfold beginWrite
  split
  next => exact ⟨_, _, rfl⟩
  next => exact ⟨_, _, rfl⟩

/-- The engine keeps to what it was set up with. -/
theorem EngineMove.setup_eq (h : EngineMove s s') : s'.setup = s.setup := by
  cases h with
  | reject =>
    dsimp only
    split <;> rfl
  | fail =>
    dsimp only
    split <;> rfl
  | _ => rfl

/-- So does the loop. -/
theorem DeliveryMove.setup_eq (h : DeliveryMove s s') : s'.setup = s.setup := by
  cases h with
  | accept =>
    dsimp only
    split <;> rfl
  | _ => rfl

variable [Store σ]

/-- What a session was set up with does not change. -/
theorem Step.setup_eq {action : SessionAction} (h : Step s action s') : s'.setup = s.setup := by
  cases h with
  | engine _ hmove => exact hmove.setup_eq
  | deliver _ hmove => exact hmove.setup_eq
  | tick =>
    obtain ⟨history, timer, heq⟩ := beginWrite_eq s false
    rw [heq]
  | lastWrite =>
    obtain ⟨history, timer, heq⟩ := beginWrite_eq s true
    rw [heq]
  | _ => rfl

/-! ## Runs -/

theorem run_cons (s : Session σ) (action : SessionAction) (actions : List SessionAction) :
    s.run (action :: actions) = ((s.step? action).getD s).run actions := rfl

/-- What every step preserves holds after every run; of the steps, only those of the run count. -/
theorem run_induction {P : Session σ → Prop} (actions : List SessionAction)
    (hstep : ∀ s s' action, action ∈ actions → P s → Step s action s' → P s')
    {s : Session σ} (h : P s) : P (s.run actions) := by
  induction actions generalizing s with
  | nil => exact h
  | cons action actions ih =>
    rw [run_cons]
    -- A party that cannot go on leaves the session as it is.
    refine ih (fun s s' a ha => hstep s s' a (List.mem_cons_of_mem _ ha)) ?_
    cases hs : s.step? action with
    | none => exact h
    | some s' => exact hstep s s' action List.mem_cons_self h (.of_step? hs)

theorem setup_run (s : Session σ) (actions : List SessionAction) :
    (s.run actions).setup = s.setup :=
  run_induction actions (fun _ _ _ _ h hs => hs.setup_eq.trans h) rfl

end ChangeFeed.Session

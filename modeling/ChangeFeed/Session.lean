import ChangeFeed.Delivery
import ChangeFeed.Engine.Script
import ChangeFeed.History.Persistence
import ChangeFeed.Interpreter
import ChangeFeed.Registration
import ChangeFeed.Settings

/-!
# Sessions

A session runs an engine at most once. The engine's records become events, which the delivery loop
hands to the consumer, while a timer writes the schema history. The session comes to an end when the
engine does; whoever wants to end it before cancels it, and then the engine is closed. The first
failure is the result of the run.

The parties of a session go on one step at a time, in any order:

* the caller, who starts and stops the session;
* the session itself, which prepares the run and clears up after it;
* the engine, the delivery loop, the timer, and the closer, who closes the engine.

`step?` is one step of one of them. It does nothing about time: a pause may end whenever it likes.
-/

namespace ChangeFeed

/-! ## Parties -/

/-- What a session is given. -/
structure SessionSetup where
  settings : ReaderSettings
  catalog : Catalog
  statements : Schema.Interpretation
  /-- The tables to read. -/
  tables : List String
  start : Option StartingPoint
  /-- The size of a batch that is asked for. -/
  batch : UInt64
  consumer : Consumer
  script : List EngineStep
  /-- The name that the session gets if it has none. -/
  freshName : String
  /-- The server that it passes itself off as if none is configured. -/
  drawnReplica : UInt32

/-- What the engine and the consumer of a session see. -/
inductive SessionEntry where
  /-- The consumer is told that reading begins. -/
  | started
  /-- The consumer is handed a batch. -/
  | accept (batch : Batch)
  /-- The consumer is told that reading ended. -/
  | ended
  /-- The engine came across something that is no record. -/
  | malformed (fault : Error)
  /-- A record of the engine was rejected. -/
  | rejected (error : Error)
  /-- The engine stopped the session and looked whether that had an effect. -/
  | stopped (isStopped : Bool)
  /-- The engine looked whether the session runs. -/
  | observed (isRunning : Bool)
  /-- The engine reported its end or a failure. -/
  | reported (isSuccess : Bool)
  deriving Repr

/-- How far a session has come. -/
inductive SessionStage where
  | fresh
  | preparing
  /-- The engine runs. -/
  | reading
  /-- The queue is closed and is emptied. -/
  | draining
  /-- The timer and the closer come to their ends. -/
  | closing
  | over
  deriving DecidableEq, Repr

/-- Where the engine is. -/
inductive EnginePhase where
  /-- It is about to do the next step of its script. -/
  | ready
  /-- It waits until the events of a record are in the queue. -/
  | offering (events : List PlacedEvent)
  | pausing (duration : Nat)
  | finished
  deriving Repr

/-- Where the timer is. -/
inductive TimerPhase where
  | idle
  /-- It writes, for the last time if the session was cancelled before. -/
  | writing (capture : HistoryCapture) (isLast : Bool)
  | finished
  deriving DecidableEq, Repr

/-- A session over a store. -/
structure Session (σ : Type) where
  setup : SessionSetup
  store : σ
  history : SchemaHistory
  isCancelled : Bool
  stage : SessionStage
  /-- The name by which the engine knows the session. -/
  name : String
  engine : EnginePhase
  /-- What the engine has yet to do. -/
  script : List EngineStep
  isEngineClosed : Bool
  queue : BoundedQueue PlacedEvent
  /-- Nothing comes into the queue any more. -/
  isQueueClosed : Bool
  delivery : DeliveryPhase PlacedEvent
  /-- The batches that the consumer accepted, the oldest first. -/
  accepted : List Batch
  timer : TimerPhase
  /-- The first failure. -/
  failure : Option Error
  /-- The properties of every run of the engine. -/
  runs : List EngineProperties
  /-- The result of every start. -/
  results : List (Result Unit)
  log : List SessionEntry

namespace Session

variable {σ : Type}

/-- A session that was not started yet. -/
def ofSetup (setup : SessionSetup) (store : σ) (history : SchemaHistory) : Session σ where
  setup := setup
  store := store
  history := history
  isCancelled := false
  stage := .fresh
  name := ""
  engine := .ready
  script := setup.script
  isEngineClosed := false
  queue := .ofCapacity setup.settings.queueCapacity
  isQueueClosed := false
  delivery := .waiting
  accepted := []
  timer := .idle
  failure := none
  runs := []
  results := []
  log := []

/-! ## Small operations -/

/-- The session was started and is not cancelled. -/
def isRunning (s : Session σ) : Bool := decide (s.stage ≠ .fresh) && !s.isCancelled

/-- The engine was run, and the session is not over. -/
def isActive (s : Session σ) : Bool :=
  match s.stage with
  | .reading | .draining | .closing => true
  | .fresh | .preparing | .over => false

/-- Notes what the engine or the consumer saw. -/
def note (s : Session σ) (entry : SessionEntry) : Session σ := { s with log := s.log ++ [entry] }

def cancel (s : Session σ) : Session σ := { s with isCancelled := true }

/-- Records a failure, unless there was one before, and cancels the session. -/
def fail (s : Session σ) (e : Error) : Session σ :=
  { s with failure := s.failure.or (some e), isCancelled := true }

/-- A start returns. -/
def finish (s : Session σ) (result : Result Unit) : Session σ :=
  { s with results := s.results ++ [result] }

/-! ## The caller -/

/-- Starts the session, which can be done once. Nothing is run if it was stopped before. -/
def start (s : Session σ) : Session σ :=
  if s.stage ≠ .fresh then s.finish (.error (.invalidState "stream session already started"))
  else if s.isCancelled then { s with stage := .over }.finish (.ok ())
  else { s with stage := .preparing }

/-! ## The session itself -/

section Preparation

variable [Store σ]

/-- The name of the session and the properties of the run. The store and the history may change even
if the preparation fails. -/
def preparation (s : Session σ) : Result (String × EngineProperties) × Session σ :=
  let settings := s.setup.settings
  let register : Access σ SessionRegistration := do
    MonadExcept.ofExcept settings.check
    SessionRegistration.ensure s.setup.freshName
  let (registration, store) := register.run s.store
  let s := { s with store }
  match registration with
  | .error e => (.error e, s)
  | .ok registration =>
    let (loaded, store) := s.history.load.run s.store
    let s := { s with store }
    match loaded with
    | .error e => (.error e, s)
    -- Only now the starting point is looked at.
    | .ok (_, history) =>
      let start := s.setup.start.mapM fun p =>
        (p.resolve registration.name settings.sourceServer).mapError PositionFault.toError
      let properties := start.map fun start =>
        settings.properties registration.name s.setup.tables start
          (ReaderSettings.batchSize s.setup.batch) (settings.replicaOf s.setup.drawnReplica)
      (properties.map (registration.name, ·), { s with history })

/-- Prepares the run; the engine, the delivery loop, the timer and the closer begin. -/
def prepare (s : Session σ) : Session σ :=
  match s.preparation with
  | (.ok (name, properties), s) =>
    { s with stage := .reading, name, runs := s.runs ++ [properties] }.note .started
  | (.error e, s) => { s.cancel with stage := .over }.finish (.error e)

end Preparation

/-- Clears up after the engine: the delivery loop is waited for, then the timer and the closer. -/
def proceed? (s : Session σ) : Option (Session σ) :=
  match s.stage, s.engine, s.delivery, s.timer with
  | .reading, .finished, _, _ => some { s with stage := .draining, isQueueClosed := true }
  | .draining, _, .finished _, _ => some ({ s with stage := .closing }.note .ended).cancel
  | .closing, _, _, .finished =>
    if s.isEngineClosed then
      some ({ s with stage := .over }.finish (s.failure.elim (.ok ()) .error))
    else none
  | _, _, _, _ => none

/-! ## The engine -/

/-- The engine pauses for a millisecond after every record. -/
def recordPause : Nat := 1

/-- What turns the session's records into events. -/
def interpreter (s : Session σ) : Interpreter := ⟨s.name, s.setup.catalog, s.setup.statements⟩

/-- Takes a record of the engine. A session that is cancelled ignores it. -/
def receive (s : Session σ) (record : LogRecord) (isLenient : Bool) : Session σ :=
  if s.isCancelled then { s with engine := .pausing recordPause }
  else
    match s.interpreter.interpret s.history record with
    | (.ok events, history) => { s with history, engine := .offering events }
    | (.error e, history) =>
      -- The engine is told a text, and what it reports back later comes second.
      let told : Error := .engine e.message
      let s := ({ s with history }.fail e).note (.rejected told)
      if isLenient then { s with engine := .pausing recordPause }
      else { s.fail (engineFailure "Record handling failed" (some told)) with engine := .finished }

/-- The engine does a step of its script, if it can. -/
def follow? (s : Session σ) : EngineStep → Option (Session σ)
  | .record record isLenient => some (s.receive record isLenient)
  | .malformed fault => some (s.note (.malformed fault))
  | .stop => some (s.cancel.note (.stopped !s.cancel.isRunning))
  | .observe => some (s.note (.observed s.isRunning))
  | .awaitClose => if s.isEngineClosed then some s else none
  | .sleep duration => some { s with engine := .pausing duration }
  | .fail message cause goesOn =>
    -- An engine that goes on has failed the session all the same.
    let s := (s.note (.reported false)).fail (engineFailure message cause)
    some (if goesOn then s else { s with engine := .finished })

/-- The engine goes on. Events that come too late are dropped. -/
def engine? (s : Session σ) : Option (Session σ) :=
  match s.engine with
  | .ready =>
    match s.script with
    | [] => some { s.note (.reported true) with engine := .finished }
    | step :: script => { s with script }.follow? step
  | .offering [] => some { s with engine := .pausing recordPause }
  | .offering (event :: events) =>
    if s.isCancelled then some { s with engine := .pausing recordPause }
    else (s.queue.offer? event).map fun queue => { s with queue, engine := .offering events }
  | .pausing _ => some { s with engine := .ready }
  | .finished => none

/-- An engine that was closed may end before its script does. -/
def leave? (s : Session σ) : Option (Session σ) :=
  match s.engine with
  | .ready | .pausing _ =>
    if s.isEngineClosed then some { s.note (.reported true) with engine := .finished } else none
  | .offering _ | .finished => none

/-! ## The delivery loop -/

def answered (s : Session σ) (item : PlacedEvent) : Session σ :=
  let number := s.accepted.length
  let answer := s.setup.consumer.answer number
  -- The consumer may stop the session while it holds the batch.
  let s := if s.setup.consumer.cancels number then s.cancel else s
  let s := { s with delivery := .afterAnswer answer }
  match answer with
  | .ok _ => { s with accepted := s.accepted ++ [item.batch] }
  | .error e => s.fail e

/-- The delivery loop goes on. -/
def deliver? (s : Session σ) : Option (Session σ) :=
  match s.delivery with
  | .handing item => some (s.answered item)
  | phase =>
    (phase.advance? s.queue (!s.isCancelled) s.isQueueClosed).map fun (phase, queue) =>
      let s := { s with delivery := phase, queue }
      match phase with
      | .handing item => s.note (.accept item.batch)
      | _ => s

/-! ## The timer and the closer -/

/-- The timer begins to write, if there is something to write. -/
def beginWrite (s : Session σ) (isLast : Bool) : Session σ :=
  match s.history.beginWrite with
  | (.started capture, history) => { s with history, timer := .writing capture isLast }
  | (_, history) => { s with history, timer := if isLast then .finished else .idle }

/-- The timer goes off. It may do so once more when the session was cancelled already. -/
def tick? (s : Session σ) : Option (Session σ) :=
  match s.timer with
  | .idle => some (s.beginWrite false)
  | .writing .. | .finished => none

/-- The timer ends a write, or begins the last one after the session was cancelled. -/
def write? [Store σ] (s : Session σ) : Option (Session σ) :=
  match s.timer with
  | .idle => if s.isCancelled then some (s.beginWrite true) else none
  | .writing capture isLast =>
    let (result, store) := (SchemaHistory.put capture).run s.store
    some
      { s with
        store
        history := s.history.endWrite result.isOk
        timer := if isLast then .finished else .idle }
  | .finished => none

/-- The closer closes the engine of a session that is cancelled. -/
def close? (s : Session σ) : Option (Session σ) :=
  if s.isCancelled && !s.isEngineClosed then some { s with isEngineClosed := true } else none

end Session

/-! ## Steps -/

/-- Who goes on. -/
inductive SessionAction where
  | start
  | stop
  | prepare
  | proceed
  | engine
  | leave
  | deliver
  | tick
  | write
  | close
  deriving DecidableEq, Repr

namespace Session

variable {σ : Type} [Store σ]

/-- One step of one party, if it can go on. -/
def step? (s : Session σ) : SessionAction → Option (Session σ)
  | .start => some s.start
  | .stop => some s.cancel
  | .prepare => if s.stage = .preparing then some s.prepare else none
  | .proceed => s.proceed?
  | .engine => if s.stage = .reading then s.engine? else none
  | .leave => if s.stage = .reading then s.leave? else none
  | .deliver => if s.isActive then s.deliver? else none
  | .tick => if s.isActive then s.tick? else none
  | .write => if s.isActive then s.write? else none
  | .close => if s.isActive then s.close? else none

/-- Steps one after the other; a party that cannot go on does nothing. -/
def run (s : Session σ) (actions : List SessionAction) : Session σ :=
  actions.foldl (fun s action => (s.step? action).getD s) s

end Session

end ChangeFeed

import ChangeFeed.Session

/-!
# Sessions: Schedules

A session in which everybody goes on at once and time passes only when nobody can. A pause of the
engine lasts exactly as long as it should, and the timer goes off at the multiples of its interval.
At each instant the engine goes first.
-/

namespace ChangeFeed

/-- A session at an instant. Times are in milliseconds since the start. -/
structure TimedSession (σ : Type) where
  session : Session σ
  now : Nat
  /-- The instant at which the engine's pause is over. -/
  wake : Nat
  /-- The next instant at which the timer goes off. -/
  due : Nat
  /-- The instant at which the session is going to be stopped. -/
  stopAt : Option Nat

namespace TimedSession

variable {σ : Type} [Store σ]

def interval (t : TimedSession σ) : Nat := t.session.setup.settings.historyInterval.toNat

/-- A session at the start of time. -/
def ofSession (s : Session σ) (stopAt : Option Nat) : TimedSession σ :=
  ⟨s, 0, 0, s.setup.settings.historyInterval.toNat, stopAt⟩

/-! ## An instant -/

/-- The engine pauses still. -/
def isAsleep (t : TimedSession σ) : Bool :=
  match t.session.engine with
  | .pausing _ => decide (t.now < t.wake)
  | _ => false

/-- The engine goes on, unless it pauses. -/
def engine? (t : TimedSession σ) : Option (TimedSession σ) :=
  if t.isAsleep then none
  else
    (t.session.step? .engine).map fun session =>
      match session.engine with
      | .pausing duration => { t with session, wake := t.now + duration }
      | _ => { t with session }

/-- Another party goes on. -/
def other? (t : TimedSession σ) (action : SessionAction) : Option (TimedSession σ) :=
  (t.session.step? action).map fun session => { t with session }

/-- The timer goes off if it is due. -/
def tick? (t : TimedSession σ) : Option (TimedSession σ) :=
  if t.due ≤ t.now ∧ t.session.history.isDirty then
    (t.other? .tick).map fun t => { t with due := t.due + t.interval }
  else none

def stop? (t : TimedSession σ) : Option (TimedSession σ) :=
  match t.stopAt with
  | some instant =>
    if instant ≤ t.now then ({ t with stopAt := none }).other? .stop else none
  | none => none

/-- Somebody goes on at this instant. -/
def act? (t : TimedSession σ) : Option (TimedSession σ) :=
  t.engine? <|> t.other? .deliver <|> t.other? .write <|> t.other? .close <|> t.other? .proceed <|>
    t.tick? <|> t.stop?

/-! ## Time -/

/-- The instants at which something is going to happen. -/
def instants (t : TimedSession σ) : List Nat :=
  let pause := if t.isAsleep then [t.wake] else []
  let tick := if t.session.history.isDirty && !t.session.isCancelled then [t.due] else []
  (pause ++ tick ++ t.stopAt.toList).filter (t.now < ·)

/-- The first instant that is not before another one at which the timer goes off. -/
def dueFrom (t : TimedSession σ) (instant : Nat) : Nat :=
  max t.due ((instant + t.interval - 1) / t.interval * t.interval)

/-- Time passes until something happens. -/
def elapse? (t : TimedSession σ) : Option (TimedSession σ) :=
  if t.session.isActive then
    t.instants.min?.map fun instant => { t with now := instant, due := t.dueFrom instant }
  else none

/-! ## Whole runs -/

/-- Goes on for at most `n` steps. -/
def runWithin (t : TimedSession σ) : (n : Nat) → TimedSession σ
  | 0 => t
  | n + 1 =>
    match t.act? <|> t.elapse? with
    | some t => t.runWithin n
    | none => t

def eventCount (interpreter : Interpreter) (record : LogRecord) : Nat :=
  match (interpreter.events .empty record).1 with
  | .ok events => events.length
  | .error _ => 0

/-- A bound for the steps that a pause takes: at each multiple of the interval time passes, and the
timer begins and ends a write. -/
def pauseBound (interval duration : Nat) : Nat := 3 * (duration / interval + 1) + 2

/-- A bound for the steps that a step of the script takes: each event is offered, taken, handed over
and answered. -/
def stepBound (interpreter : Interpreter) (interval : Nat) : EngineStep → Nat
  | .record record _ =>
    4 * eventCount interpreter record + 2 + pauseBound interval Session.recordPause
  | .sleep duration => 1 + pauseBound interval duration
  | _ => 1

/-- A bound for the steps of a run: those of the script, those that wait for the instant of a stop,
and those in which the parties come to their ends. -/
def bound (t : TimedSession σ) : Nat :=
  let s := t.session
  s.script.foldl (fun n step => n + stepBound s.interpreter t.interval step) 0 +
    pauseBound t.interval (t.stopAt.getD 0) + 16

/-- Goes on until nobody can. -/
def run (t : TimedSession σ) : TimedSession σ := t.runWithin t.bound

end TimedSession

namespace Session

variable {σ : Type} [Store σ]

/-- Starts a session and waits until the start returns; the session may be stopped meanwhile. -/
def startAndWait (s : Session σ) (stopAt : Option Nat) : Session σ :=
  (TimedSession.ofSession (s.run [.start, .prepare]) stopAt).run.session

end Session

end ChangeFeed

import ChangeFeed.History.Persistence

/-!
# The schema history: The timer

While a session runs its history is written at regular instants, whenever it is dirty. When the
session is cancelled one last attempt is made.
-/

namespace ChangeFeed

/-- A history, the store that it is written to, and the time, in milliseconds since the start. -/
structure HistoryTimer (σ : Type) where
  cache : SchemaHistory
  store : σ
  interval : Nat
  now : Nat
  finished : Bool
  deriving Repr

namespace HistoryTimer

variable {σ : Type} [Store σ]

def start (store : σ) (interval : Nat) : HistoryTimer σ := ⟨.empty, store, interval, 0, false⟩

/-- Attempts to write; a failure is left to the next attempt. -/
def attempt (t : HistoryTimer σ) : HistoryTimer σ :=
  let ((_, cache), store) := t.cache.persist.run t.store
  { t with cache, store }

def record (t : HistoryTimer σ) (table statement : String) : HistoryTimer σ :=
  { t with cache := (t.cache.record table statement).2 }

def nextDue (t : HistoryTimer σ) : Nat := (t.now / t.interval + 1) * t.interval

/-- The timer goes off. -/
def tick (t : HistoryTimer σ) : HistoryTimer σ := { t with now := t.nextDue }.attempt

/-- The timer goes off a number of times. -/
def ticks (t : HistoryTimer σ) : Nat → HistoryTimer σ
  | 0 => t
  | n + 1 => t.tick.ticks n

/-- Time passes; all that is due until then, and at that instant, is done. -/
def elapse (t : HistoryTimer σ) (duration : Nat) : HistoryTimer σ :=
  let instant := t.now + duration
  let due := if t.finished then 0 else instant / t.interval - t.now / t.interval
  { t.ticks due with now := instant }

def cancel (t : HistoryTimer σ) : HistoryTimer σ :=
  if t.finished then t else { t.attempt with finished := true }

end HistoryTimer

end ChangeFeed

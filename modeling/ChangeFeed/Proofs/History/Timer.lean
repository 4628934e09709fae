import ChangeFeed.History.Timer
import ChangeFeed.Proofs.History.Consistent
import Mathlib.Data.List.Chain

/-!
# The schema history: The timer

A history is written by a timer. It goes off at the multiples of its interval and writes the history
then, if that is dirty. A write that fails leaves the history dirty, so the next attempt is a write
again. When the timer is cancelled it makes one last attempt, which fails or leaves a clean history
behind.

Much can fall on one instant. A statement that is recorded when the timer is due comes before the
attempt or behind it. A timer that is cancelled when it is due goes off before it notices, or does
not go off any more. Either order is a schedule.

## Main results

* `attempt_cases`: what an attempt can do.
* `OnTime.step`, `Kept.step`: when a timer goes off, and how the history, the store and the attempts
  fit together.
* `exists_run_eq_use`: what a program does with a timer is a schedule.
* `timer_writes_until_clean`: every schedule, up to the last attempt.
-/

namespace ChangeFeed

open SchemaHistory (stored storeKey)

namespace SchemaHistory

variable {c : SchemaHistory} {found : Result (Option StatementLists)}

/-! ## Histories that nobody else writes -/

/-- A put that has just begun saves the history as it is, or leaves it alone. -/
theorem endWrite_begun (hidle : c.writing = none) (succeeded : Bool) :
    { c with writing := some ⟨c.generation, c.tables⟩ }.endWrite succeeded =
      { c with saved := if succeeded then c.generation else c.saved } := by
  rw [endWrite_of_writing rfl]
  simp only [hidle]

section

variable {σ : Type} [Store σ]

/-- A clean history is left alone, and so is its store. -/
theorem persist_run_of_clean (hidle : c.writing = none) (hclean : c.isDirty = false) (s : σ) :
    c.persist.run s = ((.ok .clean, c), s) := by
  obtain ⟨hbusy, -⟩ | ⟨-, -, hbegin⟩ | ⟨-, hsaved, -⟩ := c.beginWrite_cases
  · exact absurd hidle hbusy
  · rw [persist_run_eq, hbegin]
  · exact absurd (isDirty_eq_false_iff.1 hclean) hsaved

/-- A dirty history is put, and clean afterwards exactly if the put succeeds. -/
theorem persist_run_of_dirty (hidle : c.writing = none) (hdirty : c.isDirty = true) (s : σ) :
    c.persist.run s =
      let answer : Result Unit × σ := (put ⟨c.generation, c.tables⟩).run s
      ((answer.1.map fun _ => .persisted,
        { c with saved := if answer.1.isOk then c.generation else c.saved }), answer.2) := by
  -- None is under way, and the history is not clean, so that the write begins.
  obtain ⟨hbusy, -⟩ | ⟨-, hsaved, -⟩ | ⟨-, -, hbegin⟩ := c.beginWrite_cases
  · exact absurd hidle hbusy
  · rw [isDirty_eq_false_iff.2 hsaved] at hdirty
    cases hdirty
  · rw [persist_run_eq, hbegin]
    simp only [endWrite_begun hidle]

end

/-- A history fits the store that it was put into as it is. -/
theorem Consistent.save (h : c.Consistent found) (hidle : c.writing = none) :
    Consistent { c with saved := c.generation } (.ok (some c.tables)) where
  unchanged := h.unchanged
  saved_le := Nat.le_refl _
  stored _ := .inr rfl
  capture_pos _ hwriting := nomatch hidle.symm.trans hwriting
  capture_le _ hwriting := nomatch hidle.symm.trans hwriting
  capture_tables _ hwriting := nomatch hidle.symm.trans hwriting

/-- A dirty history has been changed. -/
theorem Consistent.generation_pos (h : c.Consistent found) (hdirty : c.isDirty = true) :
    0 < c.generation := by
  have hle := h.saved_le
  have hne : c.generation ≠ c.saved := of_decide_eq_true hdirty
  omega

/-- What is recorded does not make a dirty history clean. -/
theorem isDirty_record (hle : c.saved ≤ c.generation) (table statement : String)
    (hdirty : c.isDirty = true) : (c.record table statement).2.isDirty = true := by
  -- A statement that is known changes nothing; another one leads to a greater generation.
  by_cases hknown : statement ∈ c.statements table
  · rw [record_of_mem hknown]
    exact hdirty
  · rw [record_of_not_mem hknown]
    refine decide_eq_true ?_
    simp only
    omega

end SchemaHistory

/-- An attempt to write is counted, whether it is refused or not. -/
theorem GuardedStore.writes_write (s : GuardedStore) (key : String) (value : Json) :
    (s.write key value).2.writes = s.writes + 1 := by
  unfold write settle
  split <;> rfl

namespace HistoryTimer

variable {t : HistoryTimer GuardedStore}

/-! ## Attempts -/

/-- What an attempt to write would answer. -/
def answer (t : HistoryTimer GuardedStore) : Result HistoryOutcome :=
  (t.cache.persist.run t.store).1.1

/-- An attempt would write the history. -/
def writes (t : HistoryTimer GuardedStore) : Bool :=
  match t.answer with
  | .ok .persisted => true
  | _ => false

/-- An attempt would fail to write the history. -/
def fails (t : HistoryTimer GuardedStore) : Bool := !t.answer.isOk

/-- What an attempt to write does, if no other one is under way. -/
inductive Attempt (t : HistoryTimer GuardedStore) : HistoryTimer GuardedStore → Prop where
  /-- There is nothing to write. -/
  | clean : t.cache.isDirty = false → t.answer = .ok .clean → Attempt t t
  /-- From now on the store holds the tables of the history. -/
  | written {store : GuardedStore} : t.cache.isDirty = true → t.answer = .ok .persisted →
    store.writes = t.store.writes + 1 →
    store.entries.get? storeKey = some (stored t.cache.tables) →
    Attempt t { t with cache := { t.cache with saved := t.cache.generation }, store }
  /-- The store refuses the write and holds what it held. -/
  | refused {store : GuardedStore} {e : Error} : t.cache.isDirty = true → t.answer = .error e →
    store.writes = t.store.writes + 1 →
    store.entries.get? storeKey = t.store.entries.get? storeKey →
    Attempt t { t with store }

/-- What can come of an attempt: nothing to write, a write, or a refusal. -/
theorem attempt_cases (hidle : t.cache.writing = none) : t.Attempt t.attempt := by
  cases hdirty : t.cache.isDirty with
  | false =>
    have hrun := SchemaHistory.persist_run_of_clean hidle hdirty t.store
    have hattempt : t.attempt = t := by rw [attempt, hrun]
    rw [hattempt]
    exact .clean hdirty (by rw [answer, hrun])
  | true =>
    have hrun := SchemaHistory.persist_run_of_dirty hidle hdirty t.store
    obtain ⟨result, store, hput⟩ : ∃ (result : Result Unit) (store : GuardedStore),
        (SchemaHistory.put ⟨t.cache.generation, t.cache.tables⟩).run t.store = (result, store) :=
      ⟨_, _, rfl⟩
    -- The put is counted whatever it answers, but only a put that succeeds leaves its value.
    have hwrites : store.writes = t.store.writes + 1 := by
      have hcounted := t.store.writes_write storeKey (stored t.cache.tables)
      rwa [show t.store.write storeKey (stored t.cache.tables) = (result, store) from hput]
        at hcounted
    have hholds := LawfulStore.value_put t.store storeKey (stored t.cache.tables) storeKey
    rw [show (Store.put storeKey (stored t.cache.tables)).run t.store = (result, store) from hput]
      at hholds
    rw [hput] at hrun
    rw [attempt, hrun]
    cases result with
    | ok _ => exact .written hdirty (by rw [answer, hrun]; rfl) hwrites hholds
    | error e => exact .refused hdirty (by rw [answer, hrun]; rfl) hwrites hholds

/-- After an attempt the history is dirty exactly if the attempt failed. -/
theorem isDirty_attempt (hidle : t.cache.writing = none) : t.attempt.cache.isDirty = t.fails := by
  -- An attempt leaves the history clean unless it was refused.
  generalize hnext : t.attempt = next
  cases hnext ▸ attempt_cases hidle with
  | clean hclean hanswer =>
    rw [hclean, fails, hanswer]
    rfl
  | written _ hanswer =>
    rw [SchemaHistory.isDirty_eq_false_iff.2 rfl, fails, hanswer]
    rfl
  | refused hdirty hanswer =>
    rw [hdirty, fails, hanswer]
    rfl

end HistoryTimer

/-! ## Schedules -/

/-- What a program does with a timer before it cancels it. -/
inductive TimerUse where
  | record (table statement : String)
  | elapse (duration : Nat)
  deriving DecidableEq, Repr

def HistoryTimer.use (t : HistoryTimer GuardedStore) : TimerUse → HistoryTimer GuardedStore
  | .record table statement => t.record table statement
  | .elapse duration => t.elapse duration

/-- What happens to a timer. -/
inductive TimerMove where
  | record (table statement : String)
  /-- Time passes, up to the next instant at which the timer is due, but not over it. -/
  | wait (duration : Nat)
  /-- The timer is due and goes off. -/
  | goOff
  deriving DecidableEq, Repr

/-- A timer and what it has done. -/
structure TimedHistory where
  timer : HistoryTimer GuardedStore
  /-- The timer as its attempts to write found it, the first first. -/
  attempts : List (HistoryTimer GuardedStore)

namespace TimedHistory

/-- A new history, and an empty store that refuses writes as it likes. -/
def start (refusals : List Bool) (interval : Nat) : TimedHistory :=
  ⟨.start ⟨.empty, [], refusals, 0⟩ interval, []⟩

/-- The instant at which the timer goes off next. -/
def due (r : TimedHistory) : Nat := (r.attempts.length + 1) * r.timer.interval

/-- One move. One that cannot be made changes nothing. -/
def step (r : TimedHistory) : TimerMove → TimedHistory
  | .record table statement => { r with timer := r.timer.record table statement }
  | .wait duration =>
    if r.timer.finished ∨ r.timer.now + duration ≤ r.due then
      { r with timer := { r.timer with now := r.timer.now + duration } }
    else r
  | .goOff =>
    if ¬ r.timer.finished ∧ r.timer.now = r.due then ⟨r.timer.attempt, r.attempts ++ [r.timer]⟩
    else r

/-- Moves one after the other. -/
def run (r : TimedHistory) (moves : List TimerMove) : TimedHistory := moves.foldl step r

/-- The timer notices that it is cancelled. -/
def cancel (r : TimedHistory) : TimedHistory :=
  ⟨r.timer.cancel, if r.timer.finished then r.attempts else r.attempts ++ [r.timer]⟩

/-- What the last attempt that wrote has written. -/
def lastWritten (attempts : List (HistoryTimer GuardedStore)) : Option StatementLists :=
  (attempts.filter (·.writes)).getLast?.map (·.cache.tables)

variable {r : TimedHistory}

theorem run_append (r : TimedHistory) (moves more : List TimerMove) :
    r.run (moves ++ more) = (r.run moves).run more := List.foldl_append

/-- What holds at the start and is preserved by every move holds after every schedule. -/
theorem run_induction {P : TimedHistory → Prop} (hstep : ∀ r move, P r → P (r.step move))
    (hr : P r) (moves : List TimerMove) : P (r.run moves) := by
  induction moves generalizing r with
  | nil => exact hr
  | cons move moves ih => exact ih (hstep r move hr)

/-! ### Instants -/

/-- A timer that is not cancelled has gone off at every multiple of its interval that has passed,
once at each, and at no other instant. -/
structure OnTime (interval : Nat) (r : TimedHistory) : Prop where
  running : r.timer.finished = false
  interval_eq : r.timer.interval = interval
  instants : r.attempts.map (·.now) =
    (List.range r.attempts.length).map fun i => (i + 1) * interval
  passed : r.attempts.length * interval ≤ r.timer.now
  /-- The present instant may be one that it is due at. -/
  now_le : r.timer.now ≤ (r.attempts.length + 1) * interval

namespace OnTime

variable {interval : Nat}

theorem start (refusals : List Bool) (interval : Nat) : OnTime interval (start refusals interval) :=
  ⟨rfl, rfl, rfl, by simp [TimedHistory.start], Nat.zero_le _⟩

/-- The timer goes off when it is due, and is due again one interval later. -/
theorem goOff (h : OnTime interval r) (hdue : r.timer.now = r.due) :
    OnTime interval ⟨r.timer.attempt, r.attempts ++ [r.timer]⟩ := by
  -- The instant of this attempt is the next multiple of the interval.
  obtain ⟨hrunning, rfl, hinstants, -, -⟩ := h
  have hlength : (r.attempts ++ [r.timer]).length = r.attempts.length + 1 := List.length_append
  refine ⟨hrunning, rfl, ?_, ?_, ?_⟩
  · rw [List.map_append, hinstants, hlength, List.range_succ, List.map_append, List.map_singleton,
      List.map_singleton, hdue]
    rfl
  · rw [hlength]
    exact Nat.le_of_eq hdue.symm
  · rw [hlength]
    exact Nat.le_trans (Nat.le_of_eq hdue) (Nat.mul_le_mul_right _ (Nat.le_succ _))

/-- Time passes up to the instant when the timer is due, and not beyond it. -/
theorem step (h : OnTime interval r) (move : TimerMove) : OnTime interval (r.step move) := by
  cases move with
  | record table statement => exact ⟨h.running, h.interval_eq, h.instants, h.passed, h.now_le⟩
  | wait duration =>
    rw [TimedHistory.step]
    split
    next hwait =>
      -- A wait that goes further than that cannot be made as long as the timer runs.
      have hdue : r.timer.now + duration ≤ r.due :=
        hwait.resolve_left (by rw [h.running]; exact Bool.false_ne_true)
      rw [due, h.interval_eq] at hdue
      exact ⟨h.running, h.interval_eq, h.instants,
        Nat.le_trans h.passed (Nat.le_add_right _ _), hdue⟩
    next => exact h
  | goOff =>
    rw [TimedHistory.step]
    split
    next hdue => exact h.goOff hdue.2
    next => exact h

end OnTime

/-! ### Time that passes -/

/-- The timer is left alone until an instant at which it is due at the latest. -/
theorem run_wait {instant : Nat} (hnow : r.timer.now ≤ instant) (hdue : instant ≤ r.due) :
    r.run [.wait (instant - r.timer.now)] =
      { r with timer := { r.timer with now := instant } } := by
  have hwait : r.timer.now + (instant - r.timer.now) = instant := Nat.add_sub_cancel' hnow
  simp only [run, List.foldl_cons, List.foldl_nil, step, hwait, hdue, or_true, if_true]

/-- A timer that has gone off whenever it was due, at the present instant too. -/
structure IsServed (r : TimedHistory) : Prop where
  pos : 0 < r.timer.interval
  running : r.timer.finished = false
  attempts : r.attempts.length = r.timer.now / r.timer.interval

namespace IsServed

theorem start (refusals : List Bool) {interval : Nat} (hpos : 0 < interval) :
    (start refusals interval).IsServed :=
  ⟨hpos, rfl, (Nat.zero_div _).symm⟩

theorem due_eq (h : r.IsServed) : r.due = r.timer.nextDue := by
  rw [due, h.attempts]
  rfl

theorem now_lt_due (h : r.IsServed) : r.timer.now < r.due := by
  rw [h.due_eq]
  exact Nat.lt_mul_of_div_lt (Nat.lt_succ_self _) h.pos

/-- The timer is left alone until it is due, and goes off. -/
theorem tick (h : r.IsServed) :
    ∃ moves, (r.run moves).timer = r.timer.tick ∧ (r.run moves).IsServed := by
  have hrun : r.run ([.wait (r.due - r.timer.now)] ++ [.goOff]) =
      ⟨r.timer.tick, r.attempts ++ [{ r.timer with now := r.due }]⟩ := by
    -- It is due after what is left of the interval, and goes off there.
    rw [run_append, run_wait (Nat.le_of_lt h.now_lt_due) (Nat.le_refl _), HistoryTimer.tick,
      ← h.due_eq]
    exact if_pos ⟨by simp [h.running], rfl⟩
  have hserved : (r.timer.now / r.timer.interval + 1) * r.timer.interval / r.timer.interval =
      r.attempts.length + 1 := by
    rw [Nat.mul_div_cancel _ h.pos, h.attempts]
  refine ⟨_, by rw [hrun], ?_⟩
  rw [hrun]
  exact ⟨h.pos, h.running, by rw [List.length_append]; exact hserved.symm⟩

/-- The timer is left alone until an instant, and is due a number of times until then. -/
theorem ticks (h : r.IsServed) {instant : Nat} (hnow : r.timer.now ≤ instant) (n : Nat)
    (hn : instant / r.timer.interval = r.timer.now / r.timer.interval + n) :
    ∃ moves, (r.run moves).timer = { r.timer.ticks n with now := instant } ∧
      (r.run moves).IsServed := by
  induction n generalizing r with
  | zero =>
    -- The timer is not due any more before the instant.
    have hdue : instant ≤ r.due := by
      rw [due, h.attempts, ← Nat.add_zero (_ / _), ← hn]
      exact Nat.le_of_lt (Nat.lt_mul_of_div_lt (Nat.lt_succ_self _) h.pos)
    refine ⟨_, by rw [run_wait hnow hdue]; rfl, ?_⟩
    rw [run_wait hnow hdue]
    exact ⟨h.pos, h.running, by rw [h.attempts, hn, Nat.add_zero]⟩
  | succ n ih =>
    obtain ⟨first, hfirst, hserved⟩ := h.tick
    -- The timer is due once more until the instant, so it goes off in time.
    have hreached : r.timer.nextDue ≤ instant := by
      rw [HistoryTimer.nextDue, ← Nat.le_div_iff_mul_le h.pos]
      omega
    have hrounds : r.timer.nextDue / r.timer.interval = r.timer.now / r.timer.interval + 1 :=
      Nat.mul_div_cancel _ h.pos
    obtain ⟨moves, hmoves, hrest⟩ := ih hserved (hfirst ▸ hreached) <| by
      rw [hfirst]
      show instant / r.timer.interval = r.timer.nextDue / r.timer.interval + n
      rw [hrounds]
      omega
    refine ⟨first ++ moves, ?_, by rwa [run_append]⟩
    rw [run_append, hmoves, hfirst]
    rfl

/-- **Time passes** for a timer by a schedule, whatever is due meanwhile. -/
theorem elapse (h : r.IsServed) (duration : Nat) :
    ∃ moves, (r.run moves).timer = r.timer.elapse duration ∧ (r.run moves).IsServed := by
  have hnow := Nat.le_add_right r.timer.now duration
  have hrounds := Nat.div_le_div_right hnow (c := r.timer.interval)
  obtain ⟨moves, hmoves, hserved⟩ := h.ticks hnow _ (Nat.add_sub_cancel' hrounds).symm
  refine ⟨moves, ?_, hserved⟩
  rw [hmoves, HistoryTimer.elapse, h.running]
  rfl

theorem record (h : r.IsServed) (table statement : String) :
    (r.step (.record table statement)).IsServed :=
  ⟨h.pos, h.running, h.attempts⟩

end IsServed

/-- Whatever a program does with a timer that goes off whenever it is due is a schedule. -/
theorem exists_run_eq_use (refusals : List Bool) {interval : Nat} (hpos : 0 < interval)
    (uses : List TimerUse) :
    ∃ moves, ((start refusals interval).run moves).timer =
      uses.foldl HistoryTimer.use (start refusals interval).timer := by
  have hserved : (start refusals interval).IsServed := .start refusals hpos
  -- The induction is on what is still to be done, from any state in which all that is due is done.
  generalize start refusals interval = r at hserved
  induction uses generalizing r with
  | nil => exact ⟨[], rfl⟩
  | cons use uses ih =>
    have hfirst : ∃ moves, (r.run moves).timer = r.timer.use use ∧ (r.run moves).IsServed := by
      cases use with
      | record table statement =>
        exact ⟨[.record table statement], rfl, hserved.record table statement⟩
      | elapse duration => exact hserved.elapse duration
    obtain ⟨first, huse, hserved⟩ := hfirst
    obtain ⟨moves, hmoves⟩ := ih _ hserved
    exact ⟨first ++ moves, by rw [run_append, hmoves, huse]; rfl⟩

/-! ### Histories, stores and attempts -/

/-- An attempt that does not write leaves in place what was written last. -/
theorem lastWritten_append_singleton (attempts : List (HistoryTimer GuardedStore))
    (t : HistoryTimer GuardedStore) :
    lastWritten (attempts ++ [t]) =
      if t.writes then some t.cache.tables else lastWritten attempts := by
  rw [lastWritten, List.filter_append, List.filter_singleton]
  cases t.writes
  · simp [lastWritten]
  · simp

/-- A history, its store and the attempts to write it fit together. -/
structure Kept (c : SchemaHistory) (store : GuardedStore)
    (attempts : List (HistoryTimer GuardedStore)) : Prop where
  idle : c.writing = none
  consistent : c.Consistent (.ok (lastWritten attempts))
  unwritten : c.generation = 0 → lastWritten attempts = none
  holds : store.entries.get? storeKey = (lastWritten attempts).map stored
  counted : store.writes = attempts.countP (·.cache.isDirty)
  /-- Behind an attempt that failed comes one that finds something to write. -/
  retried : attempts.IsChain fun t t' => t.fails = true → t'.cache.isDirty = true
  pending : ∀ t ∈ attempts.getLast?, t.fails = true → c.isDirty = true

namespace Kept

variable {c : SchemaHistory} {store : GuardedStore} {attempts : List (HistoryTimer GuardedStore)}

/-- Nothing was changed, written or tried yet. -/
theorem start (refusals : List Bool) : Kept .empty ⟨.empty, [], refusals, 0⟩ [] where
  idle := rfl
  consistent := .empty _
  unwritten _ := rfl
  holds := rfl
  counted := rfl
  retried := .nil
  pending := nofun

/-- A record leaves the store alone and keeps the history dirty if it is. -/
theorem record (h : Kept c store attempts) (table statement : String) :
    Kept (c.record table statement).2 store attempts where
  idle := (c.writing_record table statement).trans h.idle
  consistent := h.consistent.record table statement
  unwritten hzero := h.unwritten <|
    Nat.le_zero.1 (hzero ▸ c.generation_le_record table statement)
  holds := h.holds
  counted := h.counted
  retried := h.retried
  pending t ht hfails :=
    c.isDirty_record h.consistent.saved_le table statement (h.pending t ht hfails)

/-- An attempt keeps the store in step with what was written last. -/
theorem attempt {t : HistoryTimer GuardedStore} (h : Kept t.cache t.store attempts) :
    Kept t.attempt.cache t.attempt.store (attempts ++ [t]) := by
  -- The attempt before this one may have failed, but then the history has stayed dirty.
  have hchain : (attempts ++ [t]).IsChain fun t t' => t.fails = true → t'.cache.isDirty = true :=
    List.isChain_append.2 ⟨h.retried, .singleton t, fun t' ht' _ hhead => by
      cases hhead
      exact h.pending t' ht'⟩
  have hlast := lastWritten_append_singleton attempts t
  have hcount : (attempts ++ [t]).countP (·.cache.isDirty) =
      attempts.countP (·.cache.isDirty) + if t.cache.isDirty then 1 else 0 := by
    rw [List.countP_append, List.countP_singleton]
  -- What was written last is what this attempt has written, or what it was before.
  generalize hnext : t.attempt = next
  cases hnext ▸ HistoryTimer.attempt_cases h.idle with
  | clean hclean hanswer =>
    rw [HistoryTimer.writes, hanswer, if_neg Bool.false_ne_true] at hlast
    refine ⟨h.idle, hlast ▸ h.consistent, hlast ▸ h.unwritten, hlast ▸ h.holds, ?_, hchain, ?_⟩
    · rw [hcount, hclean, h.counted]
      rfl
    · simp [HistoryTimer.fails, hanswer, Except.isOk, Except.toBool]
  | written hdirty hanswer hwrites hholds =>
    rw [HistoryTimer.writes, hanswer, if_pos rfl] at hlast
    refine ⟨h.idle, hlast ▸ h.consistent.save h.idle, fun hzero => ?_, hlast ▸ hholds, ?_, hchain,
      ?_⟩
    · exact absurd hzero (Nat.ne_of_gt (h.consistent.generation_pos hdirty))
    · rw [hcount, hdirty, hwrites, h.counted]
      rfl
    · simp [HistoryTimer.fails, hanswer, Except.isOk, Except.toBool]
  | refused hdirty hanswer hwrites hholds =>
    rw [HistoryTimer.writes, hanswer, if_neg Bool.false_ne_true] at hlast
    refine ⟨h.idle, hlast ▸ h.consistent, hlast ▸ h.unwritten, ?_, ?_, hchain, fun _ _ _ => hdirty⟩
    · rw [hlast, hholds, h.holds]
    · rw [hcount, hdirty, hwrites, h.counted]
      rfl

/-- The invariant survives every move, as only going off does anything to the store. -/
theorem step (h : Kept r.timer.cache r.timer.store r.attempts) (move : TimerMove) :
    Kept (r.step move).timer.cache (r.step move).timer.store (r.step move).attempts := by
  -- Waiting changes nothing that is kept; a record and an attempt do.
  cases move with
  | record table statement => exact h.record table statement
  | wait duration =>
    rw [TimedHistory.step]
    split
    next => exact h
    next => exact h
  | goOff =>
    rw [TimedHistory.step]
    split
    next => exact h.attempt
    next => exact h

/-- A clean history is in its store, unless it was never changed and nothing was ever written. -/
theorem clean (h : Kept c store attempts) (hclean : c.isDirty = false) :
    store.entries.get? storeKey = some (stored c.tables) ∨
      c.generation = 0 ∧ c.tables = .empty ∧ store.entries.get? storeKey = none := by
  -- What is clean is saved: it was written last, or it was never changed.
  rcases h.consistent.stored (SchemaHistory.isDirty_eq_false_iff.1 hclean) with hzero | hlast
  · refine .inr ⟨hzero, h.consistent.unchanged hzero, ?_⟩
    rw [h.holds, h.unwritten hzero]
    rfl
  · refine .inl ?_
    rw [h.holds, Except.ok.inj hlast]
    rfl

end Kept

/-! ### The last attempt -/

theorem cancel_eq (hrunning : r.timer.finished = false) :
    r.cancel = ⟨{ r.timer.attempt with finished := true }, r.attempts ++ [r.timer]⟩ := by
  simp [cancel, HistoryTimer.cancel, hrunning]

/-- A timer that has finished attempts nothing any more. -/
theorem finished_run (hfinished : r.timer.finished = true) (moves : List TimerMove) :
    (r.run moves).timer.finished = true ∧ (r.run moves).timer.store = r.timer.store ∧
      (r.run moves).attempts = r.attempts := by
  refine run_induction (P := fun s => s.timer.finished = true ∧ s.timer.store = r.timer.store ∧
    s.attempts = r.attempts) (fun s move h => ?_) ⟨hfinished, rfl, rfl⟩ moves
  -- Nothing but going off could change the store, and a finished timer does not go off.
  cases move with
  | record table statement => exact h
  | wait duration =>
    rw [step, if_pos (.inl h.1)]
    exact h
  | goOff =>
    rw [step, if_neg fun hdue => hdue.1 h.1]
    exact h

/-- **The timer writes until its history is clean**: up to its cancellation it goes off at the
multiples of its interval, at each once, and writes what is dirty then and nothing else. An attempt
that fails is followed by another write. The cancellation brings one more attempt, and nothing
comes after it. If that attempt fails, the history is dirty, and the store holds what was last
written, if anything was. If it does not fail, the history is clean, and the store holds the tables
of the history, or nothing if these were never changed. -/
theorem timer_writes_until_clean (refusals : List Bool) (interval : Nat)
    (moves later : List TimerMove) :
    let r := (start refusals interval).run moves
    let ended := r.cancel
    let holds := ended.timer.store.entries.get? storeKey
    OnTime interval r ∧ r.timer.store.writes = r.attempts.countP (·.cache.isDirty) ∧
    ended.attempts = r.attempts ++ [r.timer] ∧
    ended.timer.store.writes = ended.attempts.countP (·.cache.isDirty) ∧
    (ended.attempts.IsChain fun t t' => t.fails = true → t'.cache.isDirty = true) ∧
    (ended.run later).attempts = ended.attempts ∧
    (ended.run later).timer.store = ended.timer.store ∧
    (r.timer.fails = true ∧ ended.timer.cache.isDirty = true ∧
        holds = (lastWritten ended.attempts).map stored ∨
      r.timer.fails = false ∧ ended.timer.cache.isDirty = false ∧
        (holds = some (stored ended.timer.cache.tables) ∨
          ended.timer.cache.generation = 0 ∧ ended.timer.cache.tables = .empty ∧
            holds = none)) := by
  intro r ended holds
  have honTime : OnTime interval r := run_induction (fun _ move h => h.step move) (.start _ _) moves
  have hkept : Kept r.timer.cache r.timer.store r.attempts :=
    run_induction (P := fun r => Kept r.timer.cache r.timer.store r.attempts)
      (fun _ move h => h.step move) (.start refusals) moves
  have hended : ended = ⟨{ r.timer.attempt with finished := true }, r.attempts ++ [r.timer]⟩ :=
    cancel_eq honTime.running
  -- The cancellation is one more attempt, made like all others.
  have hlast : Kept ended.timer.cache ended.timer.store ended.attempts := by
    rw [hended]
    exact hkept.attempt
  have hdirty : ended.timer.cache.isDirty = r.timer.fails := by
    rw [hended]
    exact HistoryTimer.isDirty_attempt hkept.idle
  obtain ⟨-, hstore, hattempts⟩ := finished_run (r := ended) (by rw [hended]) later
  refine ⟨honTime, hkept.counted, by rw [hended], hlast.counted, hlast.retried, hattempts, hstore,
    ?_⟩
  cases hfails : r.timer.fails with
  | true => exact .inl ⟨rfl, hdirty.trans hfails, hlast.holds⟩
  | false => exact .inr ⟨rfl, hdirty.trans hfails, hlast.clean (hdirty.trans hfails)⟩

/-- A write that is refused is repeated at the next instant. -/
example :
    let r := (start [true] 10).run
      [.record "t" "DROP TABLE t", .wait 10, .goOff, .wait 10, .goOff, .wait 10, .goOff]
    r.attempts.map (·.fails) = [true, false, false] ∧ r.timer.store.writes = 2 := by
  decide +kernel

end TimedHistory

end ChangeFeed

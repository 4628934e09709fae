import ChangeFeed.Proofs.Session.Shutdown

/-!
# Sessions: What remains to be done

A session that is cancelled comes to its end in a number of steps that is known beforehand. The
parties have only so much left to do, and every step of theirs is one less. Only the timer, which
may still go off, gives them something to do; once it does not any more, they come to rest.

## Main results

* `Step.remaining_lt`: every step of a party leaves less to be done.
* `worked_le`: the parties of a session that is cancelled take only so many steps.
-/

namespace ChangeFeed

/-! ## Phases -/

def SessionStage.remaining : SessionStage → Nat
  | .fresh => 5
  | .preparing => 4
  | .reading => 3
  | .draining => 2
  | .closing => 1
  | .over => 0

def EnginePhase.remaining : EnginePhase → Nat
  | .offering _ => 3
  | .pausing _ => 2
  | .ready => 1
  | .finished => 0

def DeliveryPhase.remaining {ι : Type} : DeliveryPhase ι → Nat
  | .handing _ => 2
  | .waiting | .holding _ => 1
  | .finished _ => 0

def TimerPhase.remaining : TimerPhase → Nat
  | .writing _ isLast => if isLast then 1 else 3
  | .idle => 2
  | .finished => 0

/-- It is up to the parties of a session to take the step, and not to the caller or to time. -/
def SessionAction.isWork : SessionAction → Bool
  | .start | .stop | .tick => false
  | .prepare | .proceed | .engine | .leave | .deliver | .write | .close => true

namespace Session

variable {σ : Type} {s s' : Session σ}

/-- What the engine, the loop, the timer and the closer have left to do in a session that is
cancelled. An engine may pause behind every step of its script. -/
def remaining (s : Session σ) : Nat :=
  s.stage.remaining + 3 * s.script.length + s.engine.remaining + s.delivery.remaining +
    s.timer.remaining + (!s.isEngineClosed).toNat

/-! ## Single steps -/

/-- The engine of a session that is cancelled has less and less to do. -/
theorem EngineMove.remaining_lt (h : EngineMove s s') (hc : s.isCancelled = true) :
    s'.remaining < s.remaining := by
  -- Each move of the engine takes something off the script, or comes closer to being ready.
  cases h with
  | complete hengine => simp [remaining, note, hengine, EnginePhase.remaining]
  | ignore hengine hscript =>
    simp only [remaining, hengine, hscript, EnginePhase.remaining, List.length_cons]
    omega
  | interpret _ _ hrunning | reject _ _ hrunning | offer _ hrunning => simp [hc] at hrunning
  | malformed _ hscript | stop _ hscript | observe _ hscript =>
    simp only [remaining, note, cancel, hscript, List.length_cons]
    omega
  | awaitClose _ hscript =>
    simp only [remaining, hscript, List.length_cons]
    omega
  | sleep hengine hscript =>
    simp only [remaining, hengine, hscript, EnginePhase.remaining, List.length_cons]
    omega
  | fail hengine hscript =>
    dsimp only
    split <;>
      simp only [remaining, Session.fail, note, hengine, hscript, EnginePhase.remaining,
        List.length_cons] <;>
      omega
  | pause hengine | drop hengine | resume hengine =>
    simp [remaining, hengine, EnginePhase.remaining]

/-- So has its loop. -/
theorem DeliveryMove.remaining_lt (h : DeliveryMove s s') (hc : s.isCancelled = true) :
    s'.remaining < s.remaining := by
  -- The loop hands nothing over any more, and what it does brings it to its end.
  cases h with
  | take _ hrunning | hand _ hrunning => simp [hc] at hrunning
  | finish hend =>
    have hgoing : s.delivery.remaining = 1 := by
      obtain hwaiting | ⟨item, hholding⟩ := waiting_or_holding_of_end hend
      · rw [hwaiting]; rfl
      · rw [hholding]; rfl
    have hdone : (DeliveryPhase.finished none : DeliveryPhase PlacedEvent).remaining = 0 := rfl
    simp only [remaining, hgoing, hdone]
    omega
  | accept hhanding =>
    dsimp only
    split <;> simp [remaining, cancel, hhanding, DeliveryPhase.remaining]
  | reject hhanding => simp [remaining, Session.fail, hhanding, DeliveryPhase.remaining]

/-- A timer that is going to write has one more step to take, if it was not to write at last. -/
theorem remaining_beginWrite (s : Session σ) (htimer : s.timer = .idle) (isLast : Bool) :
    (s.beginWrite isLast).remaining + isLast.toNat ≤ s.remaining + (!isLast).toNat := by
  -- A last attempt that writes something has its end before it, and any other one goes back to
  -- idling.
  have hphase : (s.beginWrite isLast).timer.remaining + isLast.toNat ≤
      s.timer.remaining + (!isLast).toNat := by
    unfold beginWrite
    split
    next => cases isLast <;> simp [htimer, TimerPhase.remaining]
    next => cases isLast <;> simp [htimer, TimerPhase.remaining]
  obtain ⟨history, timer, heq⟩ := beginWrite_eq s isLast
  rw [heq] at hphase ⊢
  simp only [remaining] at hphase ⊢
  omega

variable [Store σ]

/-- **One step**: what a party does is one step less to be done. -/
theorem Step.remaining_lt {action : SessionAction} (h : Step s action s')
    (hc : s.isCancelled = true) (hwork : action.isWork = true) : s'.remaining < s.remaining := by
  -- What the callers do and the ticking of the timer are no work.
  cases h with
  | startAgain | startStopped | start | stop | tick => cases hwork
  | prepare hstage | prepareFail hstage | drain hstage | close hstage | finish hstage =>
    simp [remaining, note, cancel, Session.finish, hstage, SessionStage.remaining]
  | engine _ hmove => exact hmove.remaining_lt hc
  | leave _ _ hengine =>
    obtain hready | ⟨duration, hpausing⟩ := hengine
    · simp [remaining, note, hready, EnginePhase.remaining]
    · simp [remaining, note, hpausing, EnginePhase.remaining]
  | deliver _ hmove => exact hmove.remaining_lt hc
  | lastWrite _ htimer => exact s.remaining_beginWrite htimer true
  | @endWrite _ isLast _ _ _ htimer =>
    cases isLast <;> simp [remaining, htimer, TimerPhase.remaining]
  | closeEngine _ _ hclosed => simp [remaining, hclosed]

/-- The caller leaves what is to be done as it is, and the timer adds a step. -/
theorem Step.remaining_le {action : SessionAction} (h : Step s action s')
    (hwork : action.isWork = false) :
    s'.remaining ≤ s.remaining + [action].count .tick := by
  cases h with
  | startAgain | stop => exact Nat.le_refl _
  | startStopped hstage | start hstage =>
    simp [remaining, Session.finish, hstage, SessionStage.remaining]
  | tick _ htimer => simpa using s.remaining_beginWrite htimer false
  | _ => cases hwork

/-- Nobody takes it back that a session was cancelled. -/
theorem Step.isCancelled {action : SessionAction} (h : Step s action s')
    (hc : s.isCancelled = true) : s'.isCancelled = true := by
  cases h with
  | stop | prepareFail | close => rfl
  -- The parties only ever set the mark; most of them leave it as it is.
  | engine _ hmove => exact hmove.history_frame.2.2.2.2.1 hc
  | deliver _ hmove => exact hmove.history_frame.2.2.2.2.1 hc
  | tick | lastWrite =>
    obtain ⟨history, timer, heq⟩ := beginWrite_eq s _
    rw [heq]
    exact hc
  | _ => exact hc

/-! ## Runs -/

/-- How many of the steps that the parties were to take they took. -/
def worked (s : Session σ) : List SessionAction → Nat
  | [] => 0
  | action :: actions =>
    match s.step? action with
    | some s' => action.isWork.toNat + s'.worked actions
    | none => s.worked actions

/-- **Runs**: in a session that is cancelled the parties take as many steps as remain, and one more
for every time that the timer goes off. -/
theorem worked_le (hc : s.isCancelled = true) (actions : List SessionAction) :
    (s.run actions).remaining + s.worked actions ≤ s.remaining + actions.count .tick := by
  -- The session stays cancelled, so each step is accounted for in the same way.
  induction actions generalizing s with
  | nil => exact Nat.le_refl _
  | cons action actions ih =>
    rw [run_cons, worked, ← List.singleton_append, List.count_append]
    cases hs : s.step? action with
    | none =>
      have hrest := ih hc
      simp only [Option.getD_none]
      omega
    | some s' =>
      have hstep := Step.of_step? hs
      have hrest := ih (hstep.isCancelled hc)
      simp only [Option.getD_some]
      cases hwork : action.isWork with
      | true =>
        have hless := hstep.remaining_lt hc hwork
        simp only [Bool.toNat_true]
        omega
      | false =>
        have hless := hstep.remaining_le hwork
        simp only [Bool.toNat_false]
        omega

end Session

end ChangeFeed

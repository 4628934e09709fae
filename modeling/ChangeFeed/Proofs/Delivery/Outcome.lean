import ChangeFeed.Proofs.Delivery

/-!
# Delivery: Outcome

A feeder puts items into the queue and closes it, and the loop hands them to a consumer. In
whatever order the two sides go on, what the consumer has accepted in the end and what the loop
returns depend only on the call that is rejected and on the one during which the session is
cancelled.

## Main results

* `Move.of_step?`: a side that goes on makes one of the moves listed here.
* `Standing.move`: what was accepted and what is on its way make up the items, move by move.
* `workLeft_lt`, `isSome_step?`: the sides go on until the loop has ended, and not for ever.
* `run_finishes`: the run in which the feeder goes first is one of the schedules.
* `outcome_of_every_schedule`: the outcome of the loop.
-/

namespace ChangeFeed

/-- A delivery and what comes in its way. -/
structure DeliveryPlan where
  items : List PlacedEvent
  /-- The session was not cancelled beforehand. -/
  isRunning : Bool
  /-- The call that the consumer rejects. -/
  rejectAt : Option Nat
  /-- The call during which the session is cancelled. -/
  cancelAt : Option Nat
  /-- What the consumer rejects with. -/
  error : Error

namespace DeliveryPlan

variable (plan : DeliveryPlan)

def consumer : Consumer where
  cancels n := decide (plan.cancelAt = some n)
  answer n := if plan.rejectAt = some n then .error plan.error else .ok ()

/-- The beginning, with a queue of some capacity. -/
def start (capacity : Nat) : Delivery := .ofItems capacity plan.items plan.isRunning

/-- The number of items that are accepted. -/
def quota : Nat :=
  if plan.isRunning then
    min plan.items.length
      (min (plan.rejectAt.getD plan.items.length)
        ((plan.cancelAt.map (· + 1)).getD plan.items.length))
  else 0

/-- The rejected call comes about, since the items last for it and the session is not cancelled
earlier. -/
def isRejected : Bool :=
  plan.isRunning &&
    plan.rejectAt.any fun f => f < plan.items.length && plan.cancelAt.all fun c => f ≤ c

/-- What the consumer accepts in the end. -/
def batches : List Batch :=
  (plan.items.take plan.quota).map fun item => ⟨[item.event], item.position⟩

/-- What ends the delivery, if it fails. -/
def failure : Option Error := if plan.isRejected then some plan.error else none

/-- A bound for a number that may be missing is one for what stands in its place. -/
theorem le_getD {o : Option Nat} {n m : Nat} (h : ∀ k, o = some k → n ≤ k) (hm : n ≤ m) :
    n ≤ o.getD m := by
  cases o with
  | none => exact hm
  | some k => exact h k rfl

/-- The same for the number behind it. -/
theorem le_getD_succ {o : Option Nat} {n m : Nat} (h : ∀ k, o = some k → n ≤ k) (hm : n ≤ m) :
    n ≤ (o.map (· + 1)).getD m := by
  refine le_getD (fun next hnext => ?_) hm
  obtain ⟨k, hk, rfl⟩ := Option.map_eq_some_iff.1 hnext
  exact Nat.le_succ_of_le (h k hk)

/-- After `n` accepted calls the next one comes about. -/
structure Reaches (n : Nat) : Prop where
  running : plan.isRunning = true
  reject : ∀ f, plan.rejectAt = some f → n ≤ f
  cancel : ∀ c, plan.cancelAt = some c → n ≤ c

namespace Reaches

variable {plan} {n : Nat}

theorem zero (h : plan.isRunning = true) : plan.Reaches 0 :=
  ⟨h, fun f _ => Nat.zero_le f, fun c _ => Nat.zero_le c⟩

/-- A call that is neither rejected nor cancels the session leads to the next one. -/
theorem succ (h : plan.Reaches n) (hreject : plan.rejectAt ≠ some n)
    (hcancel : plan.cancelAt ≠ some n) : plan.Reaches (n + 1) where
  running := h.running
  reject f hf := Nat.lt_of_le_of_ne (h.reject f hf) (by rintro rfl; exact hreject hf)
  cancel c hc := Nat.lt_of_le_of_ne (h.cancel c hc) (by rintro rfl; exact hcancel hc)

/-- All items are accepted if no call after them comes in their way. -/
theorem outcome_of_drained (h : plan.Reaches plan.items.length) :
    plan.quota = plan.items.length ∧ plan.isRejected = false := by
  have hrejects := le_getD h.reject (Nat.le_refl _)
  have hcancels := le_getD_succ h.cancel (Nat.le_refl _)
  refine ⟨?_, ?_⟩
  · rw [quota, if_pos h.running]
    omega
  · cases hreject : plan.rejectAt with
    | none => simp [isRejected, hreject]
    | some f =>
      -- The call would come after the last item.
      have hlate := h.reject f hreject
      simp [isRejected, hreject]
      omega

/-- The call is rejected, and the items before it are all that are accepted. -/
theorem outcome_of_rejected (h : plan.Reaches n) (hn : n < plan.items.length)
    (hreject : plan.rejectAt = some n) : plan.quota = n ∧ plan.isRejected = true := by
  have hcancels := le_getD_succ h.cancel (Nat.le_of_lt hn)
  refine ⟨?_, ?_⟩
  · rw [quota, if_pos h.running, hreject, Option.getD_some]
    omega
  · cases hcancel : plan.cancelAt with
    | none => simp [isRejected, h.running, hreject, hcancel, hn]
    | some c => simp [isRejected, h.running, hreject, hcancel, hn, h.cancel c hcancel]

/-- The call is accepted and the last one. -/
theorem outcome_of_cancelled (h : plan.Reaches n) (hn : n < plan.items.length)
    (hreject : plan.rejectAt ≠ some n) (hcancel : plan.cancelAt = some n) :
    plan.quota = n + 1 ∧ plan.isRejected = false := by
  have hlater : ∀ f, plan.rejectAt = some f → n + 1 ≤ f := fun f hf =>
    Nat.lt_of_le_of_ne (h.reject f hf) (by rintro rfl; exact hreject hf)
  have hrejects := le_getD hlater hn
  refine ⟨?_, ?_⟩
  · rw [quota, if_pos h.running, hcancel, Option.map_some, Option.getD_some]
    omega
  · cases hf : plan.rejectAt with
    | none => simp [isRejected, hf]
    | some f =>
      -- The session is cancelled before that call.
      have hlate := hlater f hf
      simp [isRejected, hf, hcancel]
      omega

end Reaches

end DeliveryPlan

namespace Delivery

/-! ## Moves -/

/-- What the two sides of a delivery can do. -/
inductive Move (consumer : Consumer) (d : Delivery) : Delivery → Prop where
  | close (hupcoming : d.upcoming = []) (hopen : d.isClosed = false) :
      Move consumer d { d with isClosed := true }
  | offer {item : PlacedEvent} {rest : List PlacedEvent} (hupcoming : d.upcoming = item :: rest)
      (hrunning : d.isRunning = true) (hgoing : d.phase.isFinished = false) :
      Move consumer d { d with upcoming := rest, queue := d.queue.push item }
  /-- Nobody will take the item any more. -/
  | drop {item : PlacedEvent} {rest : List PlacedEvent} (hupcoming : d.upcoming = item :: rest)
      (hover : d.isRunning = false ∨ d.phase.isFinished = true) :
      Move consumer d { d with upcoming := rest }
  | take {item : PlacedEvent} {rest : List PlacedEvent} (hphase : d.phase = .waiting)
      (hrunning : d.isRunning = true) (hitems : d.queue.items = item :: rest) :
      Move consumer d
        { d with phase := .holding item, queue := { d.queue with items := rest } }
  | hand {item : PlacedEvent} (hphase : d.phase = .holding item) (hrunning : d.isRunning = true) :
      Move consumer d { d with phase := .handing item }
  /-- The session is cancelled. -/
  | stop (hphase : d.phase = .waiting ∨ ∃ item, d.phase = .holding item)
      (hstopped : d.isRunning = false) : Move consumer d { d with phase := .finished none }
  /-- The queue is closed and empty. -/
  | drain (hphase : d.phase = .waiting) (hrunning : d.isRunning = true)
      (hclosed : d.isClosed = true) (hitems : d.queue.items = []) :
      Move consumer d { d with phase := .finished none }
  | answer {item : PlacedEvent} (hphase : d.phase = .handing item) :
      Move consumer d (d.answered consumer item)

namespace Move

variable {consumer : Consumer} {d d' : Delivery} {side : DeliverySide}

/-- What the feeder does is a move. -/
theorem of_feed? (h : d.feed? = some d') : Move consumer d d' := by
  unfold feed? at h
  split at h
  next hupcoming =>
    split at h
    next => cases h
    next hopen =>
      cases h
      exact .close hupcoming (Bool.eq_false_iff.2 hopen)
  next item rest hupcoming =>
    split at h
    next hgoing =>
      obtain ⟨hrunning, hphase⟩ := Bool.and_eq_true_iff.1 hgoing
      obtain ⟨queue, hoffer, rfl⟩ := Option.map_eq_some_iff.1 h
      -- There is room, as the offer was taken.
      unfold BoundedQueue.offer? at hoffer
      split at hoffer
      next =>
        cases hoffer
        exact .offer hupcoming hrunning (by simpa using hphase)
      next => cases hoffer
    next hover =>
      cases h
      refine .drop hupcoming ?_
      simpa [Classical.or_iff_not_imp_left] using hover

/-- What the loop does is a move. -/
theorem of_deliver? (h : d.deliver? consumer = some d') : Move consumer d d' := by
  unfold deliver? at h
  split at h
  next item hphase =>
    cases h
    exact .answer hphase
  next =>
    obtain ⟨⟨phase', queue'⟩, hadvance, rfl⟩ := Option.map_eq_some_iff.1 h
    rcases DeliveryPhase.advance?_cases hadvance with
      ⟨item, rest, hphase, hrunning, hitems, rfl, rfl⟩ | ⟨item, hphase, hrunning, rfl, rfl⟩ |
      ⟨rfl, rfl, ⟨hphase, hstopped⟩ | ⟨hphase, hclosed, hitems⟩⟩
    · exact .take hphase hrunning hitems
    · exact .hand hphase hrunning
    · exact .stop hphase hstopped
    · -- The loop has come to its end: either all was handed over or the session was cancelled.
      by_cases hrunning : d.isRunning = true
      · exact .drain hphase hrunning hclosed hitems
      · exact .stop (.inl hphase) (Bool.eq_false_iff.2 hrunning)

/-- **Inversion**: a side that goes on makes one of these moves. -/
theorem of_step? (h : d.step? consumer side = some d') : Move consumer d d' := by
  cases side with
  | feeder => exact of_feed? h
  | loop => exact of_deliver? h

end Move

/-! ## Coming to an end -/

/-- How many moves of the loop it takes at most until it waits or has ended. -/
def phaseWork {ι : Type} : DeliveryPhase ι → Nat
  | .finished _ => 0
  | .waiting => 1
  | .handing _ => 2
  | .holding _ => 3

theorem phaseWork_le {ι : Type} (phase : DeliveryPhase ι) : phaseWork phase ≤ 3 := by
  cases phase <;> simp [phaseWork]

/-- A loop without work has ended. -/
theorem isFinished_of_phaseWork {ι : Type} {phase : DeliveryPhase ι} (h : phaseWork phase = 0) :
    phase.isFinished = true := by
  cases phase with
  | finished failure => rfl
  | waiting | handing _ | holding _ => cases h

/-- An answer leaves the loop with less to do than the call. -/
theorem phaseWork_afterAnswer (answer : Result Unit) :
    phaseWork (DeliveryPhase.afterAnswer answer : DeliveryPhase PlacedEvent) < 2 := by
  cases answer with
  | error e => exact Nat.zero_lt_two
  | ok _ => exact Nat.one_lt_two

/-- The number of moves that can follow at most. An item is offered, taken, handed over and
answered, and both sides come to an end. -/
def workLeft (d : Delivery) : Nat :=
  4 * d.upcoming.length + 3 * d.queue.items.length + phaseWork d.phase + (!d.isClosed).toNat

variable {consumer : Consumer} {d d' : Delivery}

/-- Every move leaves less to do. -/
theorem workLeft_lt (h : Move consumer d d') : d'.workLeft < d.workLeft := by
  -- Everything under way is counted by the steps that are left for it, and each move takes one.
  cases h with
  | close _ hopen => simp [workLeft, hopen]
  | offer hupcoming => simp [workLeft, hupcoming, BoundedQueue.push]; omega
  | drop hupcoming => simp [workLeft, hupcoming]
  | take hphase _ hitems => simp [workLeft, phaseWork, hphase, hitems]; omega
  | hand hphase => simp [workLeft, phaseWork, hphase]
  | stop hphase =>
    rcases hphase with hphase | ⟨item, hphase⟩ <;> simp [workLeft, phaseWork, hphase]
  | drain hphase => simp [workLeft, phaseWork, hphase]
  | answer hphase =>
    have hanswer := phaseWork_afterAnswer (consumer.answer d.accepted.length)
    have hbefore : phaseWork d.phase = 2 := by rw [hphase]; rfl
    simp only [workLeft, answered, hbefore]
    omega

/-- Unless the consumer is to answer the loop goes on by itself or not at all. -/
theorem isSome_deliver? (hphase : ∀ item, d.phase ≠ .handing item) :
    (d.deliver? consumer).isSome =
      (d.phase.advance? d.queue d.isRunning d.isClosed).isSome := by
  unfold deliver?
  split
  next item hhanding => exact absurd hhanding (hphase item)
  next => rw [Option.isSome_map]

/-- **No deadlock**: as long as the loop has not ended, one of the sides can go on. -/
theorem isSome_step? (hcapacity : 0 < d.queue.capacity) (hgoing : d.phase.isFinished = false) :
    ∃ side, (d.step? consumer side).isSome = true := by
  -- A loop that hands an item over waits for nobody.
  by_cases hhanding : ∃ item, d.phase = .handing item
  · obtain ⟨item, hphase⟩ := hhanding
    exact ⟨.loop, by simp [step?, deliver?, hphase]⟩
  have hphase : ∀ item, d.phase ≠ .handing item := not_exists.1 hhanding
  by_cases hloop : d.isRunning = true → d.isClosed = true ∨ d.queue.items ≠ []
  · refine ⟨.loop, ?_⟩
    rw [step?, isSome_deliver? hphase]
    exact DeliveryPhase.isSome_advance? hloop hphase hgoing
  · -- The loop waits for an empty queue, which the feeder fills or closes.
    obtain ⟨hrunning, hempty⟩ := Classical.not_imp.1 hloop
    obtain ⟨hopen, hitems⟩ := not_or.1 hempty
    have hitems : d.queue.items = [] := Classical.not_not.1 hitems
    refine ⟨.feeder, ?_⟩
    rw [step?, feed?]
    split
    next => simp [hopen]
    next =>
      simp [hrunning, hgoing, BoundedQueue.offer?, BoundedQueue.size, hitems, hcapacity]

/-! ## What was accepted -/

/-- A call that is rejected ends the loop with its error. -/
theorem answered_of_error {item : PlacedEvent} {e : Error}
    (h : consumer.answer d.accepted.length = .error e) :
    d.answered consumer item =
      { d with
        isRunning := d.isRunning && !consumer.cancels d.accepted.length
        phase := .finished (some e) } := by
  simp only [answered, h]
  rfl

/-- A call that is accepted adds a batch. -/
theorem answered_of_ok {item : PlacedEvent} (h : consumer.answer d.accepted.length = .ok ()) :
    d.answered consumer item =
      { d with
        isRunning := d.isRunning && !consumer.cancels d.accepted.length
        phase := .waiting
        accepted := d.accepted ++ [item.batch] } := by
  simp only [answered, h]
  rfl

/-- Where a delivery stands. -/
inductive Standing (plan : DeliveryPlan) (d : Delivery) : Prop where
  /-- What was accepted, what the loop has in hand, what is in the queue and what the feeder still
  has make up the items. -/
  | going (given : List PlacedEvent) (hrunning : d.isRunning = true)
      (hgoing : d.phase.isFinished = false)
      (hitems : given ++ d.phase.inHand ++ d.queue.items ++ d.upcoming = plan.items)
      (haccepted : d.accepted = given.map PlacedEvent.batch)
      (hreaches : plan.Reaches given.length) (hclosed : d.isClosed = true → d.upcoming = [])
  /-- The session is cancelled, and the loop is about to end. -/
  | stopping (hstopped : d.isRunning = false) (hphase : d.phase = .waiting)
      (haccepted : d.accepted = plan.batches) (hkept : plan.isRejected = false)
  | ended (hphase : d.phase = .finished plan.failure) (haccepted : d.accepted = plan.batches)

namespace Standing

variable {plan : DeliveryPlan}

/-- At the start nothing was given, and a session that is not running will give nothing. -/
theorem start (capacity : Nat) : Standing plan (plan.start capacity) := by
  cases hrunning : plan.isRunning with
  | true =>
    exact .going [] hrunning rfl rfl rfl (.zero hrunning) fun hclosed =>
      absurd hclosed Bool.false_ne_true
  | false =>
    refine .stopping hrunning rfl ?_ ?_
    · simp [DeliveryPlan.start, ofItems, DeliveryPlan.batches, DeliveryPlan.quota, hrunning]
    · simp [DeliveryPlan.isRejected, hrunning]

/-- The consumer answers the call for an item. -/
theorem answered {given : List PlacedEvent} {item : PlacedEvent} (hrunning : d.isRunning = true)
    (hitems : given ++ [item] ++ d.queue.items ++ d.upcoming = plan.items)
    (haccepted : d.accepted = given.map PlacedEvent.batch) (hreaches : plan.Reaches given.length)
    (hclosed : d.isClosed = true → d.upcoming = []) :
    Standing plan (d.answered plan.consumer item) := by
  -- The number of the call is that of the items given before it.
  have hnumber : d.accepted.length = given.length := by rw [haccepted, List.length_map]
  have hless : given.length < plan.items.length := by simp [← hitems]
  have hgiven : plan.items.take given.length = given := by simp [← hitems]
  have htaken : plan.items.take (given.length + 1) = given ++ [item] := by
    rw [← hitems, List.append_assoc (given ++ [item])]
    exact List.take_left' (by simp)
  -- The call is rejected, or accepted and cancelled during it, or just accepted.
  by_cases hreject : plan.rejectAt = some given.length
  · obtain ⟨hquota, hrejected⟩ := hreaches.outcome_of_rejected hless hreject
    rw [answered_of_error (e := plan.error) (by rw [hnumber]; exact if_pos hreject)]
    refine .ended ?_ ?_
    · rw [DeliveryPlan.failure, if_pos hrejected]
    · rw [DeliveryPlan.batches, hquota, hgiven]
      exact haccepted
  rw [answered_of_ok (by rw [hnumber]; exact if_neg hreject)]
  have haccepted' : d.accepted ++ [item.batch] = (given ++ [item]).map PlacedEvent.batch := by
    rw [haccepted, List.map_append, List.map_singleton]
  by_cases hcancel : plan.cancelAt = some given.length
  · obtain ⟨hquota, hkept⟩ := hreaches.outcome_of_cancelled hless hreject hcancel
    refine .stopping ?_ rfl ?_ hkept
    · simp [DeliveryPlan.consumer, hnumber, hcancel]
    · rw [DeliveryPlan.batches, hquota, htaken]
      exact haccepted'
  · refine .going (given ++ [item]) ?_ rfl ?_ haccepted' ?_ hclosed
    · simp [DeliveryPlan.consumer, hnumber, hcancel, hrunning]
    · simpa [DeliveryPhase.inHand] using hitems
    · simpa using hreaches.succ hreject hcancel

/-- **Step**: where a delivery stands stays known, whichever side goes on. -/
theorem move (h : Standing plan d) (hmove : Move plan.consumer d d') : Standing plan d' := by
  cases h with
  | going given hrunning hgoing hitems haccepted hreaches hclosed =>
    cases hmove with
    | close hupcoming =>
      exact .going given hrunning hgoing hitems haccepted hreaches fun _ => hupcoming
    | offer hupcoming hrunning hgoing =>
      refine .going given hrunning hgoing ?_ haccepted hreaches fun h => ?_
      · simpa [BoundedQueue.push, hupcoming] using hitems
      · simp [hupcoming] at hclosed
        simp [hclosed] at h
    | drop _ hover => simp [hrunning, hgoing] at hover
    | take hphase _ hqueue =>
      refine .going given hrunning rfl ?_ haccepted hreaches hclosed
      simpa [hphase, hqueue, DeliveryPhase.inHand] using hitems
    | hand hphase =>
      refine .going given hrunning rfl ?_ haccepted hreaches hclosed
      simpa [hphase, DeliveryPhase.inHand] using hitems
    | stop _ hstopped => exact absurd hrunning (Bool.eq_false_iff.1 hstopped)
    | drain hphase _ hshut hqueue =>
      -- Nothing is on its way any more.
      obtain rfl : given = plan.items := by
        simpa [hphase, hqueue, hclosed hshut, DeliveryPhase.inHand] using hitems
      obtain ⟨hquota, hkept⟩ := hreaches.outcome_of_drained
      refine .ended ?_ ?_
      · simp [DeliveryPlan.failure, hkept]
      · rw [DeliveryPlan.batches, hquota, List.take_length]
        exact haccepted
    | answer hphase =>
      rw [hphase] at hitems
      exact answered hrunning hitems haccepted hreaches hclosed
  | stopping hstopped hphase haccepted hkept =>
    have hrunning : d.isRunning ≠ true := Bool.eq_false_iff.1 hstopped
    cases hmove with
    | close | drop => exact .stopping hstopped hphase haccepted hkept
    | stop => exact .ended (by simp [DeliveryPlan.failure, hkept]) haccepted
    | offer _ h | take _ h | hand _ h | drain _ h => exact absurd h hrunning
    | answer h => rw [hphase] at h; cases h
  | ended hphase haccepted =>
    cases hmove with
    | close | drop => exact .ended hphase haccepted
    | offer _ _ h => rw [hphase] at h; cases h
    | take h | hand h | drain h | answer h => rw [hphase] at h; cases h
    | stop h =>
      rcases h with h | ⟨item, h⟩ <;> rw [hphase] at h <;> cases h

end Standing

/-! ## Schedules -/

/-- The delivery after its sides went on in some order, if each of them could. -/
def follow? (d : Delivery) (consumer : Consumer) (schedule : List DeliverySide) : Option Delivery :=
  schedule.foldlM (fun d side => d.step? consumer side) d

/-- What every move keeps holds after every schedule. -/
theorem follow?_induction {P : Delivery → Prop} {schedule : List DeliverySide}
    (hmove : ∀ d d', P d → Move consumer d d' → P d') (hd : P d)
    (h : d.follow? consumer schedule = some d') : P d' := by
  induction schedule generalizing d with
  | nil =>
    cases h
    exact hd
  | cons side schedule ih =>
    obtain ⟨d₁, hstep, hrest⟩ := Option.bind_eq_some_iff.1 h
    exact ih (hmove d d₁ hd (Move.of_step? hstep)) hrest

/-- No schedule goes on longer than there is work. -/
theorem length_le_workLeft {schedule : List DeliverySide}
    (h : d.follow? consumer schedule = some d') : schedule.length ≤ d.workLeft := by
  induction schedule generalizing d with
  | nil => exact Nat.zero_le _
  | cons side schedule ih =>
    obtain ⟨d₁, hstep, hrest⟩ := Option.bind_eq_some_iff.1 h
    exact Nat.lt_of_le_of_lt (ih hrest) (workLeft_lt (Move.of_step? hstep))

theorem Move.capacity_eq (h : Move consumer d d') : d'.queue.capacity = d.queue.capacity := by
  cases h <;> rfl

/-- A schedule begins with its first side. -/
theorem follow?_cons {d₁ : Delivery} {side : DeliverySide} {schedule : List DeliverySide}
    (hstep : d.step? consumer side = some d₁) :
    d.follow? consumer (side :: schedule) = d₁.follow? consumer schedule := by
  simp [follow?, hstep]

/-- Letting whichever side can go on go on begins with such a side, unless neither can. -/
theorem runWithin_succ (d : Delivery) (consumer : Consumer) (n : Nat) :
    (∃ side d₁, d.step? consumer side = some d₁ ∧
      d.runWithin consumer (n + 1) = d₁.runWithin consumer n) ∨
    (∀ side, d.step? consumer side = none) ∧ d.runWithin consumer (n + 1) = d := by
  rw [runWithin]
  cases hfeeder : d.step? consumer .feeder with
  | some d₁ => exact .inl ⟨.feeder, d₁, hfeeder, rfl⟩
  | none =>
    cases hloop : d.step? consumer .loop with
    | some d₁ => exact .inl ⟨.loop, d₁, hloop, rfl⟩
    | none => exact .inr ⟨fun | .feeder => hfeeder | .loop => hloop, rfl⟩

/-- It is one of the schedules. -/
theorem exists_follow?_eq_runWithin (d : Delivery) (consumer : Consumer) (n : Nat) :
    ∃ schedule, d.follow? consumer schedule = some (d.runWithin consumer n) := by
  induction n generalizing d with
  | zero => exact ⟨[], rfl⟩
  | succ n ih =>
    rcases runWithin_succ d consumer n with ⟨side, d₁, hstep, hrun⟩ | ⟨-, hrun⟩
    · obtain ⟨schedule, hrest⟩ := ih d₁
      exact ⟨side :: schedule, by rw [follow?_cons hstep, hrun, hrest]⟩
    · exact ⟨[], by rw [hrun]; rfl⟩

/-- A loop that is let go on for long enough ends. -/
theorem isFinished_runWithin {n : Nat} (hcapacity : 0 < d.queue.capacity) (hn : d.workLeft ≤ n) :
    (d.runWithin consumer n).phase.isFinished = true := by
  induction n generalizing d with
  | zero =>
    -- Without work left the loop has ended, and with some left either side can do a part of it.
    have hwork : phaseWork d.phase = 0 := by unfold workLeft at hn; omega
    exact isFinished_of_phaseWork hwork
  | succ n ih =>
    rcases runWithin_succ d consumer n with ⟨side, d₁, hstep, hrun⟩ | ⟨hstuck, hrun⟩
    · have hmove := Move.of_step? hstep
      rw [hrun]
      exact ih (hmove.capacity_eq ▸ hcapacity)
        (Nat.le_of_lt_succ (Nat.lt_of_lt_of_le (workLeft_lt hmove) hn))
    · rw [hrun]
      by_cases hfinished : d.phase.isFinished = true
      · exact hfinished
      obtain ⟨side, hside⟩ : ∃ side, (d.step? consumer side).isSome = true :=
        isSome_step? hcapacity (Bool.eq_false_iff.2 hfinished)
      rw [hstuck side] at hside
      cases hside

/-- **Running to the end** is a schedule at the end of which the loop has ended. -/
theorem run_finishes (consumer : Consumer) (hcapacity : 0 < d.queue.capacity) :
    (∃ schedule, d.follow? consumer schedule = some (d.run consumer)) ∧
      (d.run consumer).phase.isFinished = true := by
  have hwork : d.workLeft ≤ d.stepsLeft := by
    have hphase := phaseWork_le d.phase
    have hclosed := Bool.toNat_le (!d.isClosed)
    simp only [workLeft, stepsLeft, BoundedQueue.size]
    omega
  exact ⟨exists_follow?_eq_runWithin d consumer _, isFinished_runWithin hcapacity hwork⟩

/-- **Outcome**: whatever the schedule and the capacity, the sides come to an end after a bounded
number of moves. Then the consumer has accepted the items before the call that was rejected, up to
the one during which the session was cancelled, one in a batch; the loop returns the consumer's
error if the rejected call came about, and otherwise the number of batches. -/
theorem outcome_of_every_schedule (plan : DeliveryPlan) (capacity : Nat)
    (schedule : List DeliverySide) (d : Delivery)
    (h : (plan.start capacity).follow? plan.consumer schedule = some d) :
    schedule.length ≤ 4 * plan.items.length + 2 ∧
      (d.phase.isFinished = false → ∃ side, (d.step? plan.consumer side).isSome = true) ∧
      (d.phase.isFinished = true →
        d.accepted = plan.batches ∧
          d.result = if plan.isRejected then .error plan.error else .ok d.accepted.length) := by
  have hcapacity : 0 < d.queue.capacity := by
    refine follow?_induction (P := fun d => 0 < d.queue.capacity) (fun d d' hd hmove => ?_) ?_ h
    · rw [hmove.capacity_eq]
      exact hd
    · exact Nat.lt_of_lt_of_le Nat.zero_lt_one (Nat.le_max_right capacity 1)
  have hstanding : Standing plan d :=
    follow?_induction (fun _ _ => Standing.move) (.start capacity) h
  refine ⟨?_, isSome_step? hcapacity, fun hfinished => ?_⟩
  · exact length_le_workLeft h
  -- Only an ended loop is finished, and what it ended with is known.
  cases hstanding with
  | going _ _ hgoing => exact absurd hfinished (Bool.eq_false_iff.1 hgoing)
  | stopping _ hphase => rw [hphase] at hfinished; cases hfinished
  | ended hphase haccepted =>
    refine ⟨haccepted, ?_⟩
    cases hrejected : plan.isRejected <;> simp [result, hphase, DeliveryPlan.failure, hrejected]

/-- Two orders, the second of which is rejected by the call that also cancels the session. -/
def rejectedOrder : DeliveryPlan where
  items :=
    [⟨.delete "orders" .empty 1, ⟨"server", .empty⟩⟩,
      ⟨.delete "orders" .empty 2, ⟨"server", .empty⟩⟩]
  isRunning := true
  rejectAt := some 1
  cancelAt := some 1
  error := .other "sink unavailable"

/-- The second order is offered while the consumer still has the first one. -/
theorem rejectedOrder_outcome :
    ∃ d, (rejectedOrder.start 1).follow? rejectedOrder.consumer
        [.feeder, .loop, .loop, .feeder, .loop, .feeder, .loop, .loop, .loop] = some d ∧
      d.accepted = rejectedOrder.batches ∧ d.accepted.length = 1 ∧
        d.result = .error (.other "sink unavailable") := by
  refine ⟨_, rfl, ?_⟩
  obtain ⟨-, -, hended⟩ := outcome_of_every_schedule rejectedOrder 1
    [.feeder, .loop, .loop, .feeder, .loop, .feeder, .loop, .loop, .loop] _ rfl
  obtain ⟨haccepted, hresult⟩ := hended rfl
  exact ⟨haccepted, rfl, hresult⟩

end Delivery

end ChangeFeed

import ChangeFeed.Delivery

/-!
# Delivery: Steps of the loop

What the loop has in hand, and everything that it can do by itself.
-/

namespace ChangeFeed

theorem BoundedQueue.items_of_offer {α : Type} {queue queue' : BoundedQueue α} {x : α}
    (h : queue.offer? x = some queue') : queue'.items = queue.items ++ [x] := by
  simp only [offer?] at h
  split at h
  next => rw [← Option.some.inj h]; rfl
  next => cases h

theorem BoundedQueue.take?_eq_some {α : Type} {queue queue' : BoundedQueue α} {x : α}
    (h : queue.take? = some (x, queue')) :
    ∃ rest, queue.items = x :: rest ∧ queue' = { queue with items := rest } := by
  unfold take? at h
  split at h
  next => cases h
  next y rest hitems =>
    cases h
    exact ⟨rest, hitems, rfl⟩

theorem BoundedQueue.items_of_take?_none {α : Type} {queue : BoundedQueue α}
    (h : queue.take? = none) : queue.items = [] := by
  unfold take? at h
  split at h
  next hitems => exact hitems
  next => cases h

namespace DeliveryPhase

variable {ι : Type} {phase phase' : DeliveryPhase ι} {queue queue' : BoundedQueue ι}
  {isRunning isClosed : Bool}

/-- What the delivery loop took and the consumer has not answered. -/
def inHand : DeliveryPhase ι → List ι
  | .holding item | .handing item => [item]
  | .waiting | .finished _ => []

theorem inHand_of_isFinished (h : phase.isFinished = true) : phase.inHand = [] := by
  cases phase with
  | finished failure => rfl
  | waiting | holding _ | handing _ => cases h

/-- **Steps of the loop**: it takes an item out of the queue, hands over what it took, or ends. It
ends only if the session is cancelled, or if the queue is closed and empty. -/
theorem advance?_cases (h : phase.advance? queue isRunning isClosed = some (phase', queue')) :
    (∃ item rest, phase = .waiting ∧ isRunning = true ∧ queue.items = item :: rest ∧
      phase' = .holding item ∧ queue' = { queue with items := rest }) ∨
    (∃ item, phase = .holding item ∧ isRunning = true ∧ phase' = .handing item ∧ queue' = queue) ∨
    (phase' = .finished none ∧ queue' = queue ∧
      ((phase = .waiting ∨ ∃ item, phase = .holding item) ∧ isRunning = false ∨
        phase = .waiting ∧ isClosed = true ∧ queue.items = [])) := by
  cases phase with
  | waiting =>
    cases isRunning with
    | false =>
      -- A session that is cancelled ends the loop, whatever is in the queue.
      cases h
      exact .inr (.inr ⟨rfl, rfl, .inl ⟨.inl rfl, rfl⟩⟩)
    | true =>
      simp only [advance?, Bool.not_true, Bool.false_eq_true, if_false] at h
      split at h
      next item rest htake =>
        cases h
        obtain ⟨items, hitems, rfl⟩ := BoundedQueue.take?_eq_some htake
        exact .inl ⟨item, items, rfl, rfl, hitems, rfl, rfl⟩
      next htake =>
        -- An empty queue is waited for, unless nothing comes into it any more.
        cases isClosed with
        | false => cases h
        | true =>
          cases h
          exact .inr (.inr ⟨rfl, rfl, .inr ⟨rfl, rfl, BoundedQueue.items_of_take?_none htake⟩⟩)
  | holding item =>
    cases isRunning with
    | false =>
      cases h
      exact .inr (.inr ⟨rfl, rfl, .inl ⟨.inr ⟨item, rfl⟩, rfl⟩⟩)
    | true =>
      cases h
      exact .inr (.inl ⟨item, rfl, rfl, rfl, rfl⟩)
  | handing item => cases h
  | finished failure => cases h

/-- The loop can always go on by itself, unless it waits for more to come into the queue. -/
theorem isSome_advance? (hrunning : isRunning = true → isClosed = true ∨ queue.items ≠ [])
    (hphase : ∀ item, phase ≠ .handing item) (hgoing : phase.isFinished = false) :
    (phase.advance? queue isRunning isClosed).isSome = true := by
  -- Waiting is the one phase in which something may be missing; whoever holds an item can always go
  -- on.
  cases phase with
  | waiting =>
    cases isRunning with
    | false => rfl
    | true =>
      simp only [advance?, Bool.not_true, Bool.false_eq_true, if_false]
      split
      next => rfl
      next htake =>
        have hclosed : isClosed = true :=
          (hrunning rfl).resolve_right (not_not_intro (BoundedQueue.items_of_take?_none htake))
        rw [if_pos hclosed]
        rfl
  | holding item => rfl
  | handing item => exact absurd rfl (hphase item)
  | finished failure => cases hgoing

end DeliveryPhase

end ChangeFeed

import ChangeFeed.Proofs.Delivery
import ChangeFeed.Queue.Contention

/-!
# Queues of bounded length: Turns

Everything that an action of a party can do to a queue that several producers share, with what it
asks for and what the parties are told. A property of such queues is shown case by case along
`Turn`, with no need to look into the functions behind it.

## Main results

* `Turn.of_step`: an action does one of the things listed here.
* `run_induction`: what every action preserves holds after every run.
-/

namespace ChangeFeed.SharedQueue

variable {α : Type}

/-! ## What an action can do -/

/-- What an action can do to a queue, and what the parties are told. -/
inductive Turn (q : SharedQueue α) :
    QueueAction α → List (QueueNotice α) → SharedQueue α → Prop where
  /-- No new attempt begins. -/
  | noProducer {item : α} (hproducer : q.hasProducer = false) : Turn q (.enqueue item) [] q
  /-- A new attempt comes too late. -/
  | refuse {item : α} (hproducer : q.hasProducer = true) (hclosed : q.isOpen = false) :
      Turn q (.enqueue item) [.refused q.tickets item] { q with tickets := q.tickets + 1 }
  /-- A new attempt finds room. -/
  | accept {item : α} (hproducer : q.hasProducer = true) (hopen : q.isOpen = true)
      (hfree : 0 < q.free) :
      Turn q (.enqueue item) [.accepted q.tickets item]
        { q with tickets := q.tickets + 1, queue := q.queue.push item }
  /-- A new attempt goes to the end of the line. -/
  | lineUp {item : α} (hproducer : q.hasProducer = true) (hopen : q.isOpen = true)
      (hfull : q.free = 0) :
      Turn q (.enqueue item) []
        { q with
          tickets := q.tickets + 1
          waiting := q.waiting ++ [⟨q.tickets, item, q.now + q.pollTimeout⟩] }
  /-- There is no such attempt, or it has no reason to look again. -/
  | noTurn {ticket : Nat} (hgranted : q.granted.find? (·.ticket = ticket) = none)
      (hwaiting : ∀ a, q.waiting.find? (·.ticket = ticket) = some a → q.isDue a = false) :
      Turn q (.resume ticket) [] q
  /-- An attempt that room is kept for puts its item there. -/
  | redeem {a : Attempt α} (hgranted : a ∈ q.granted) (hopen : q.isOpen = true) :
      Turn q (.resume a.ticket) [.accepted a.ticket a.item]
        { q with
          granted := q.granted.filter (·.ticket ≠ a.ticket)
          queue := q.queue.push a.item }
  /-- An attempt that room is kept for comes too late, and the room goes to the next in line. -/
  | forgo {a : Attempt α} (hgranted : a ∈ q.granted) (hclosed : q.isOpen = false) :
      Turn q (.resume a.ticket) [.refused a.ticket a.item]
        (grant { q with granted := q.granted.filter (·.ticket ≠ a.ticket) })
  /-- An attempt in line sees that nothing is accepted any more. -/
  | giveUp {a : Attempt α} (hwaiting : a ∈ q.waiting) (hclosed : q.isOpen = false) :
      Turn q (.resume a.ticket) [.refused a.ticket a.item]
        { q with waiting := q.waiting.filter (·.ticket ≠ a.ticket) }
  /-- An attempt in line has waited long enough and finds room. -/
  | slipIn {a : Attempt α} (hwaiting : a ∈ q.waiting) (hopen : q.isOpen = true)
      (hdue : q.isDue a = true) (hfree : 0 < q.free) :
      Turn q (.resume a.ticket) [.accepted a.ticket a.item]
        { q with
          waiting := q.waiting.filter (·.ticket ≠ a.ticket)
          queue := q.queue.push a.item }
  /-- An attempt in line has waited long enough and goes to the end of the line. -/
  | lineUpAgain {a : Attempt α} (hwaiting : a ∈ q.waiting) (hopen : q.isOpen = true)
      (hdue : q.isDue a = true) (hfull : q.free = 0) :
      Turn q (.resume a.ticket) []
        { q with
          waiting := q.waiting.filter (·.ticket ≠ a.ticket) ++
            [⟨a.ticket, a.item, q.now + q.pollTimeout⟩] }
  | noConsumer (hconsumer : q.hasConsumer = false) : Turn q .dequeue [] q
  /-- The consumer gets the oldest item, and the first in line its room. -/
  | handOut {item : α} {items : List α} (hconsumer : q.hasConsumer = true)
      (hrunning : q.isRunning = true) (hitems : q.queue.items = item :: items) :
      Turn q .dequeue [.handedOut item] (grant { q with queue := { q.queue with items } })
  | empty (hnone : q.isRunning = false ∨ q.queue.items = []) : Turn q .dequeue [.empty] q
  /-- The consumer is told that there will be nothing any more. -/
  | close (hconsumer : q.hasConsumer = true) (hrunning : q.isRunning = true)
      (hdrained : q.isDrained = true) : Turn q .dequeue [.closed] q
  | cancel : Turn q .cancel [] { q with isRunning := false }
  | dropProducer : Turn q .dropProducer [] { q with hasProducer := false }
  | dropConsumer :
      Turn q .dropConsumer [] { q with hasConsumer := false, queue := q.queue.clear }
  | elapse {duration : Nat} : Turn q (.elapse duration) [] { q with now := q.now + duration }

/-! ## Every action does one of these -/

variable {q : SharedQueue α}

/-- An attempt that looks for room is refused, accepted, or goes to the end of the line. -/
theorem seek_cases (q : SharedQueue α) (ticket : Nat) (item : α) :
    (q.isOpen = false ∧ q.seek ticket item = ([.refused ticket item], q)) ∨
    (q.isOpen = true ∧ 0 < q.free ∧
      q.seek ticket item = ([.accepted ticket item], { q with queue := q.queue.push item })) ∨
    (q.isOpen = true ∧ q.free = 0 ∧
      q.seek ticket item =
        ([], { q with waiting := q.waiting ++ [⟨ticket, item, q.now + q.pollTimeout⟩] })) := by
  -- A closed queue refuses, and an open one accepts as long as there is room.
  unfold seek
  split
  next hclosed => exact .inl ⟨by simpa using hclosed, rfl⟩
  next hopen =>
    have hopen : q.isOpen = true := by simpa using hopen
    split
    next hfree => exact .inr (.inl ⟨hopen, hfree, rfl⟩)
    next hfull => exact .inr (.inr ⟨hopen, Nat.eq_zero_of_not_pos hfull, rfl⟩)

namespace Turn

/-- A new attempt, if there is a producer to make it. -/
theorem of_enqueue (hproducer : q.hasProducer = true) (item : α) :
    Turn q (.enqueue item) (seek { q with tickets := q.tickets + 1 } q.tickets item).1
      (seek { q with tickets := q.tickets + 1 } q.tickets item).2 := by
  obtain ⟨hclosed, hseek⟩ | ⟨hopen, hfree, hseek⟩ | ⟨hopen, hfull, hseek⟩ :=
    seek_cases { q with tickets := q.tickets + 1 } q.tickets item
  · rw [hseek]
    exact .refuse hproducer hclosed
  · rw [hseek]
    exact .accept hproducer hopen hfree
  · rw [hseek]
    exact .lineUp hproducer hopen hfull

/-- An attempt with kept room uses it as long as the queue is open. -/
theorem of_redeem {a : Attempt α} (hgranted : a ∈ q.granted) :
    Turn q (.resume a.ticket) (q.redeem a).1 (q.redeem a).2 := by
  unfold SharedQueue.redeem
  dsimp only
  split
  next hopen => exact .redeem hgranted hopen
  next hclosed => exact .forgo hgranted (Bool.eq_false_iff.2 hclosed)

/-- An attempt in line that looks again leaves the line first. -/
theorem of_retry {a : Attempt α} (hwaiting : a ∈ q.waiting)
    (hdue : q.isDue a = true) : Turn q (.resume a.ticket) (q.retry a).1 (q.retry a).2 := by
  -- The attempt is due, so it does not just go on waiting.
  have hlook : ¬ (q.isOpen && decide (q.now < a.deadline)) = true := by
    simp only [isDue, Bool.or_eq_true, Bool.not_eq_true', decide_eq_true_eq] at hdue
    simp only [Bool.and_eq_true, decide_eq_true_eq, not_and, Nat.not_lt]
    intro hopen
    exact hdue.resolve_left (by simp [hopen])
  rw [retry, if_neg hlook]
  obtain ⟨hclosed, hseek⟩ | ⟨hopen, hfree, hseek⟩ | ⟨hopen, hfull, hseek⟩ :=
    seek_cases { q with waiting := q.waiting.filter (·.ticket ≠ a.ticket) } a.ticket a.item
  · rw [hseek]
    exact .giveUp hwaiting hclosed
  · rw [hseek]
    exact .slipIn hwaiting hopen hdue hfree
  · rw [hseek]
    exact .lineUpAgain hwaiting hopen hdue hfull

/-- An attempt that is not due goes on waiting. -/
theorem retry_of_not_due {a : Attempt α} (hdue : q.isDue a = false) : q.retry a = ([], q) := by
  simp only [isDue, Bool.or_eq_false_iff, Bool.not_eq_false', decide_eq_false_iff_not,
    Nat.not_le] at hdue
  simp [retry, hdue]

/-- An attempt that is told to go on, by its ticket. -/
theorem of_resume (q : SharedQueue α) (ticket : Nat) :
    Turn q (.resume ticket) (q.step (.resume ticket)).1 (q.step (.resume ticket)).2 := by
  simp only [step]
  cases hgranted : q.granted.find? (·.ticket = ticket) with
  -- Kept room comes first: whoever has some is not in line any more.
  | some a =>
    obtain rfl : a.ticket = ticket := by simpa using List.find?_some hgranted
    exact of_redeem (List.mem_of_find?_eq_some hgranted)
  | none =>
    cases hwaiting : q.waiting.find? (·.ticket = ticket) with
    -- No attempt has the ticket.
    | none => exact .noTurn hgranted (by simp [hwaiting])
    | some a =>
      cases hdue : q.isDue a with
      | false =>
        simp only [retry_of_not_due hdue]
        exact .noTurn hgranted (by simp [hwaiting, hdue])
      | true =>
        obtain rfl : a.ticket = ticket := by simpa using List.find?_some hwaiting
        exact of_retry (List.mem_of_find?_eq_some hwaiting) hdue

/-- A consumer that asks for an item. -/
theorem of_handOut (hconsumer : q.hasConsumer = true) :
    Turn q .dequeue q.handOut.1 q.handOut.2 := by
  unfold SharedQueue.handOut
  split
  next hstopped => exact .empty (.inl (by simpa using hstopped))
  next hrunning =>
    have hrunning : q.isRunning = true := by simpa using hrunning
    split
    next item queue htake =>
      -- The oldest item is handed out, and its place goes to the first in line.
      obtain ⟨items, hitems, rfl⟩ := BoundedQueue.take?_eq_some htake
      exact .handOut hconsumer hrunning hitems
    next htake =>
      dsimp only
      split
      -- The queue is empty for good only if no producer is left and nobody is under way.
      next hdrained => exact .close hconsumer hrunning hdrained
      next => exact .empty (.inr (BoundedQueue.items_of_take?_none htake))

/-- **Inversion**: an action does one of the things listed here. -/
theorem of_step (q : SharedQueue α) (action : QueueAction α) :
    Turn q action (q.step action).1 (q.step action).2 := by
  -- Each action has a lemma of its own, or can be done only in one way.
  cases action with
  | enqueue item =>
    simp only [step]
    split
    next hproducer => exact of_enqueue hproducer item
    next hproducer => exact .noProducer (Bool.eq_false_iff.2 hproducer)
  | resume ticket => exact of_resume q ticket
  | dequeue =>
    simp only [step]
    split
    next hconsumer => exact of_handOut hconsumer
    next hconsumer => exact .noConsumer (Bool.eq_false_iff.2 hconsumer)
  | cancel => exact .cancel
  | dropProducer => exact .dropProducer
  | dropConsumer => exact .dropConsumer
  | elapse duration => exact .elapse

end Turn

/-! ## Runs -/

@[simp] theorem run_nil (q : SharedQueue α) : q.run [] = ([], q) := rfl

/-- A run is a first action and the run of the others. -/
theorem run_cons (q : SharedQueue α) (action : QueueAction α) (actions : List (QueueAction α)) :
    q.run (action :: actions) =
      ((q.step action).1 ++ ((q.step action).2.run actions).1, ((q.step action).2.run actions).2) :=
  rfl

/-- What every action preserves holds after every run. -/
theorem run_induction {P : SharedQueue α → Prop}
    (hstep : ∀ q q' action told, P q → Turn q action told q' → P q') {q : SharedQueue α} (h : P q)
    (actions : List (QueueAction α)) : P (q.run actions).2 := by
  induction actions generalizing q with
  | nil => exact h
  | cons action actions ih => exact ih (hstep _ _ _ _ h (.of_step q action))

end ChangeFeed.SharedQueue

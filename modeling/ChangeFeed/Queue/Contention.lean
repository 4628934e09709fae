import ChangeFeed.Queue

/-!
# Queues of bounded length: Contention

Several producers put items into one queue, and one consumer takes them out. A producer that finds
the queue full waits in line; room that becomes free is kept for the first in line. Whoever has
waited for the poll timeout looks whether the session still runs and then goes to the end of the
line. When the session is cancelled nothing is accepted and nothing is handed out any more.

* `step` is what happens at one moment, in any order that the parties like.
* `settle` lets every producer go on that can.
* `pass` lets time pass, and producers go on when they have waited long enough.
-/

namespace ChangeFeed

/-! ## Attempts -/

/-- A producer's attempt to put an item into a queue. -/
structure Attempt (α : Type) where
  /-- Attempts are counted in the order in which they begin. -/
  ticket : Nat
  item : α
  /-- The time until which the attempt waits before it looks again. -/
  deadline : Nat
  deriving DecidableEq, Repr

/-- A queue, the attempts under way, and the parties that are there. Times are in milliseconds. -/
structure SharedQueue (α : Type) where
  queue : BoundedQueue α
  pollTimeout : Nat
  /-- The attempts in line, the first one first. -/
  waiting : List (Attempt α)
  /-- The attempts that room is kept for. -/
  granted : List (Attempt α)
  /-- The number of attempts so far. -/
  tickets : Nat
  isRunning : Bool
  /-- New attempts may begin. -/
  hasProducer : Bool
  hasConsumer : Bool
  now : Nat
  deriving DecidableEq, Repr

/-- What a party does. -/
inductive QueueAction (α : Type) where
  /-- A producer begins an attempt. -/
  | enqueue (item : α)
  /-- A producer goes on with its attempt. -/
  | resume (ticket : Nat)
  /-- The consumer asks for an item. -/
  | dequeue
  | cancel
  | dropProducer
  | dropConsumer
  | elapse (duration : Nat)
  deriving DecidableEq, Repr

/-- What a party is told. -/
inductive QueueNotice (α : Type) where
  | accepted (ticket : Nat) (item : α)
  | refused (ticket : Nat) (item : α)
  | handedOut (item : α)
  /-- There is nothing to hand out. -/
  | empty
  /-- There will be nothing to hand out any more. -/
  | closed
  deriving DecidableEq, Repr

namespace SharedQueue

variable {α : Type}

/-- A queue that is not used yet. -/
def ofCapacity (capacity pollTimeout : Nat) : SharedQueue α where
  queue := .ofCapacity capacity
  pollTimeout := pollTimeout
  waiting := []
  granted := []
  tickets := 0
  isRunning := true
  hasProducer := true
  hasConsumer := true
  now := 0

/-! ## Steps -/

/-- Items may be accepted. -/
def isOpen (q : SharedQueue α) : Bool := q.isRunning && q.hasConsumer

/-- The room that is neither taken nor kept for somebody. -/
def free (q : SharedQueue α) : Nat := q.queue.capacity - q.queue.size - q.granted.length

/-- Everything was accepted that ever will be, and was handed out. -/
def isDrained (q : SharedQueue α) : Bool :=
  !q.hasProducer && q.waiting.isEmpty && q.granted.isEmpty && q.queue.items.isEmpty

/-- Keeps room that became free for the first in line. -/
def grant (q : SharedQueue α) : SharedQueue α :=
  match q.waiting with
  | [] => q
  | a :: rest => { q with waiting := rest, granted := q.granted ++ [a] }

/-- An attempt looks for room: it is decided at once or goes to the end of the line. -/
def seek (q : SharedQueue α) (ticket : Nat) (item : α) : List (QueueNotice α) × SharedQueue α :=
  if !q.isOpen then ([.refused ticket item], q)
  else if 0 < q.free then ([.accepted ticket item], { q with queue := q.queue.push item })
  else ([], { q with waiting := q.waiting ++ [⟨ticket, item, q.now + q.pollTimeout⟩] })

/-- An attempt that room is kept for goes on. -/
def redeem (q : SharedQueue α) (a : Attempt α) : List (QueueNotice α) × SharedQueue α :=
  let q := { q with granted := q.granted.filter (·.ticket ≠ a.ticket) }
  if q.isOpen then ([.accepted a.ticket a.item], { q with queue := q.queue.push a.item })
  -- The room that was kept goes to the next in line.
  else ([.refused a.ticket a.item], q.grant)

/-- An attempt in line looks again, if there is a reason to. -/
def retry (q : SharedQueue α) (a : Attempt α) : List (QueueNotice α) × SharedQueue α :=
  if q.isOpen && decide (q.now < a.deadline) then ([], q)
  else
    { q with waiting := q.waiting.filter (·.ticket ≠ a.ticket) }.seek a.ticket a.item

/-- The consumer asks for an item. -/
def handOut (q : SharedQueue α) : List (QueueNotice α) × SharedQueue α :=
  if !q.isRunning then ([.empty], q)
  else
    match q.queue.take? with
    -- The item leaves room, and the first in line gets it.
    | some (item, queue) => ([.handedOut item], { q with queue }.grant)
    | none => ([if q.isDrained then .closed else .empty], q)

/-- What an action does, and what the parties are told. An action of a party that is gone does
nothing. -/
def step (q : SharedQueue α) : QueueAction α → List (QueueNotice α) × SharedQueue α
  | .enqueue item =>
    if q.hasProducer then { q with tickets := q.tickets + 1 }.seek q.tickets item else ([], q)
  | .resume ticket =>
    match q.granted.find? (·.ticket = ticket) with
    | some a => q.redeem a
    | none =>
      match q.waiting.find? (·.ticket = ticket) with
      | some a => q.retry a
      | none => ([], q)
  | .dequeue => if q.hasConsumer then q.handOut else ([], q)
  | .cancel => ([], { q with isRunning := false })
  | .dropProducer => ([], { q with hasProducer := false })
  -- What is in the queue is lost with the consumer.
  | .dropConsumer => ([], { q with hasConsumer := false, queue := q.queue.clear })
  | .elapse duration => ([], { q with now := q.now + duration })

def run (q : SharedQueue α) : List (QueueAction α) → List (QueueNotice α) × SharedQueue α
  | [] => ([], q)
  | action :: rest =>
    let (told, q) := q.step action
    let (later, q) := q.run rest
    (told ++ later, q)

/-! ## Everybody goes on who can -/

/-- An attempt in line has a reason to look again. -/
def isDue (q : SharedQueue α) (a : Attempt α) : Bool := !q.isOpen || decide (a.deadline ≤ q.now)

/-- The attempt that goes on next. -/
def ready? (q : SharedQueue α) : Option Nat :=
  (q.granted.head?.or (q.waiting.find? q.isDue)).map (·.ticket)

/-- The number of attempts under way. -/
def pending (q : SharedQueue α) : Nat := q.waiting.length + q.granted.length

/-- At most `n` attempts go on. -/
def settleWithin (q : SharedQueue α) : (n : Nat) → List (QueueNotice α) × SharedQueue α
  | 0 => ([], q)
  | n + 1 =>
    match q.ready? with
    | none => ([], q)
    | some ticket =>
      let (told, q) := q.step (.resume ticket)
      let (later, q) := q.settleWithin n
      (told ++ later, q)

/-- Every attempt goes on that can. -/
def settle (q : SharedQueue α) : List (QueueNotice α) × SharedQueue α := q.settleWithin q.pending

/-- An action, after which every attempt goes on that can. -/
def perform (q : SharedQueue α) (action : QueueAction α) : List (QueueNotice α) × SharedQueue α :=
  let (told, q) := q.step action
  let (later, q) := q.settle
  (told ++ later, q)

/-! ## Time -/

/-- The earliest time until which an attempt waits. -/
def nextDeadline? (q : SharedQueue α) : Option Nat := (q.waiting.map (·.deadline)).min?

/-- Lets time pass until `target`, with a stop at most `n` times for attempts that waited enough. -/
def passUntil (q : SharedQueue α) (target : Nat) :
    (n : Nat) → List (QueueNotice α) × SharedQueue α
  | 0 => q.perform (.elapse (target - q.now))
  | n + 1 =>
    match q.nextDeadline? with
    | none => q.perform (.elapse (target - q.now))
    | some deadline =>
      if target < deadline then q.perform (.elapse (target - q.now))
      else
        let (told, q) := q.perform (.elapse (deadline - q.now))
        let (later, q) := q.passUntil target n
        (told ++ later, q)

/-- Lets time pass. Every attempt waits out its timeout at most once per timeout, and once more. -/
def pass (q : SharedQueue α) (duration : Nat) : List (QueueNotice α) × SharedQueue α :=
  q.passUntil (q.now + duration) (q.waiting.length * (duration / q.pollTimeout + 1))

/-- The consumer was told that there is nothing. -/
def isEmptyHanded : List (QueueNotice α) → Bool
  | [.empty] => true
  | _ => false

/-- The consumer asks for an item and waits for it no longer than the poll timeout. While it waits
nobody is in line, for the queue is empty. -/
def await (q : SharedQueue α) : List (QueueNotice α) × SharedQueue α :=
  let (told, after) := q.perform .dequeue
  if q.isRunning && isEmptyHanded told then
    let (later, after) := after.pass after.pollTimeout
    (told ++ later, after)
  else (told, after)

end SharedQueue

end ChangeFeed

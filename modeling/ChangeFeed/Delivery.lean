import ChangeFeed.Error
import ChangeFeed.Interpreter
import ChangeFeed.Queue

/-!
# Delivery

The delivery loop takes items out of the queue, one at a time, and hands each to the consumer as a
batch of its own. It ends when the session is cancelled, when the queue is closed and empty, or with
the first error of the consumer. An item that was taken but not handed over when the session was
cancelled is dropped.
-/

namespace ChangeFeed

/-! ## The loop -/

/-- Where the delivery loop is. -/
inductive DeliveryPhase (ι : Type) where
  /-- It waits for an item. -/
  | waiting
  /-- It took an item out of the queue. -/
  | holding (item : ι)
  /-- The consumer was handed an item and has not answered yet. -/
  | handing (item : ι)
  /-- It ended, with an error if the consumer gave one. -/
  | finished (failure : Option Error)
  deriving Repr

namespace DeliveryPhase

variable {ι : Type}

/-- The loop ended. -/
def isFinished : DeliveryPhase ι → Bool
  | finished _ => true
  | _ => false

/-- The loop goes on by itself, if it can. -/
def advance? (phase : DeliveryPhase ι) (queue : BoundedQueue ι) (isRunning isClosed : Bool) :
    Option (DeliveryPhase ι × BoundedQueue ι) :=
  match phase with
  | waiting =>
    if !isRunning then some (finished none, queue)
    else
      match queue.take? with
      | some (item, queue) => some (holding item, queue)
      | none => if isClosed then some (finished none, queue) else none
  | holding item => some (if isRunning then handing item else finished none, queue)
  | handing _ | finished _ => none

/-- The loop goes on after the consumer's answer. -/
def afterAnswer (answer : Result Unit) : DeliveryPhase ι :=
  match answer with
  | .ok _ => waiting
  | .error e => finished (some e)

end DeliveryPhase

/-! ## A feeder and a consumer -/

/-- How a consumer answers, by the number of items that it accepted before. -/
structure Consumer where
  /-- It cancels the session before it answers. -/
  cancels : Nat → Bool
  answer : Nat → Result Unit

/-- Events on their way from a feeder through a queue to a consumer. -/
structure Delivery where
  /-- The events that the feeder has not offered yet. -/
  upcoming : List PlacedEvent
  queue : BoundedQueue PlacedEvent
  /-- Nothing comes into the queue any more. -/
  isClosed : Bool
  phase : DeliveryPhase PlacedEvent
  isRunning : Bool
  /-- The batches that the consumer accepted, the oldest first. -/
  accepted : List Batch
  deriving Repr

/-- The two sides of a delivery. -/
inductive DeliverySide where
  | feeder
  | loop
  deriving DecidableEq, Repr

namespace Delivery

/-- The delivery of events in a session that runs or is cancelled already. -/
def ofItems (capacity : Nat) (items : List PlacedEvent) (isRunning : Bool) : Delivery where
  upcoming := items
  queue := .ofCapacity capacity
  isClosed := false
  phase := .waiting
  isRunning := isRunning
  accepted := []

/-- The feeder offers its next event, which is dropped when nobody will take it any more, or closes
the queue after the last one. -/
def feed? (d : Delivery) : Option Delivery :=
  match d.upcoming with
  | [] => if d.isClosed then none else some { d with isClosed := true }
  | item :: rest =>
    if d.isRunning && !d.phase.isFinished then
      (d.queue.offer? item).map fun queue => { d with upcoming := rest, queue }
    else some { d with upcoming := rest }

def answered (d : Delivery) (consumer : Consumer) (item : PlacedEvent) : Delivery :=
  let number := d.accepted.length
  let answer := consumer.answer number
  { d with
    isRunning := d.isRunning && !consumer.cancels number
    phase := .afterAnswer answer
    accepted := if answer.isOk then d.accepted ++ [item.batch] else d.accepted }

/-- The loop goes on. -/
def deliver? (d : Delivery) (consumer : Consumer) : Option Delivery :=
  match d.phase with
  | .handing item => some (d.answered consumer item)
  | phase =>
    (phase.advance? d.queue d.isRunning d.isClosed).map fun (phase, queue) =>
      { d with phase, queue }

def step? (d : Delivery) (consumer : Consumer) : DeliverySide → Option Delivery
  | .feeder => d.feed?
  | .loop => d.deliver? consumer

/-- Whichever side can go on goes on, the feeder first, at most `n` times. -/
def runWithin (d : Delivery) (consumer : Consumer) : (n : Nat) → Delivery
  | 0 => d
  | n + 1 =>
    match (d.step? consumer .feeder).orElse fun _ => d.step? consumer .loop with
    | some d => d.runWithin consumer n
    | none => d

/-- The steps that can follow at most: an item is offered, taken, handed over and answered, and both
sides come to an end. -/
def stepsLeft (d : Delivery) : Nat := 4 * d.upcoming.length + 3 * d.queue.size + 4

/-- Both sides go on until neither can. -/
def run (d : Delivery) (consumer : Consumer) : Delivery := d.runWithin consumer d.stepsLeft

/-- The number of events that were accepted, or the error that ended the delivery. -/
def result (d : Delivery) : Result Nat :=
  match d.phase with
  | .finished (some e) => .error e
  | _ => .ok d.accepted.length

end Delivery

end ChangeFeed

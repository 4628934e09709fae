/-!
# Queues of bounded length

Between the engine and the consumer lies a queue that holds a limited number of items. Items leave
it in the order in which they came.
-/

namespace ChangeFeed

/-- A queue with room for a number of items. -/
structure BoundedQueue (α : Type) where
  capacity : Nat
  /-- The items in it, the oldest first. -/
  items : List α
  deriving DecidableEq, Repr

namespace BoundedQueue

variable {α : Type}

/-- The queue without items. There is always room for one. -/
def ofCapacity (n : Nat) : BoundedQueue α := ⟨max n 1, []⟩

def size (q : BoundedQueue α) : Nat := q.items.length

/-- Puts an item behind all others. -/
def push (q : BoundedQueue α) (x : α) : BoundedQueue α := { q with items := q.items ++ [x] }

/-- Puts an item behind all others if there is room for it. -/
def offer? (q : BoundedQueue α) (x : α) : Option (BoundedQueue α) :=
  if q.size < q.capacity then some (q.push x) else none

/-- Takes the oldest item. -/
def take? (q : BoundedQueue α) : Option (α × BoundedQueue α) :=
  match q.items with
  | [] => none
  | x :: rest => some (x, { q with items := rest })

def clear (q : BoundedQueue α) : BoundedQueue α := { q with items := [] }

end BoundedQueue

end ChangeFeed

import ChangeFeed.Proofs.Queue.Turns

/-!
# Queues of bounded length: Books

Several producers share a queue of bounded length with one consumer, and everybody goes on in any
order. Three invariants say what they can rely on. One counts places: no more are taken or kept
than there are, and nobody is in line as long as there is one. One keeps the books: every attempt
that began is under way or was answered once. And one keeps the order: what was handed out and what
is in the queue are what was accepted, one after the other.

## Main results

* `Places.turn`, `Answers.turn`, `InOrder.turn`: the invariants survive every action.
-/

namespace ChangeFeed

/-! ## What the parties were told -/

namespace QueueNotice

variable {α : Type}

/-- The item that was accepted, with the ticket of its attempt. -/
def acceptance? : QueueNotice α → Option (α × Nat)
  | .accepted ticket item => some (item, ticket)
  | _ => none

/-- The item that was refused, with the ticket of its attempt. -/
def refusal? : QueueNotice α → Option (α × Nat)
  | .refused ticket item => some (item, ticket)
  | _ => none

def delivery? : QueueNotice α → Option α
  | .handedOut item => some item
  | _ => none

/-- What was accepted, in this order. -/
def acceptances (told : List (QueueNotice α)) : List (α × Nat) := told.filterMap acceptance?

def refusals (told : List (QueueNotice α)) : List (α × Nat) := told.filterMap refusal?

/-- What the consumer got, in this order. -/
def deliveries (told : List (QueueNotice α)) : List α := told.filterMap delivery?

variable (told later : List (QueueNotice α))

@[simp] theorem acceptances_append :
    acceptances (told ++ later) = acceptances told ++ acceptances later :=
  List.filterMap_append

@[simp] theorem refusals_append : refusals (told ++ later) = refusals told ++ refusals later :=
  List.filterMap_append

@[simp] theorem deliveries_append :
    deliveries (told ++ later) = deliveries told ++ deliveries later :=
  List.filterMap_append

end QueueNotice

namespace SharedQueue

open QueueNotice (acceptances refusals deliveries acceptances_append refusals_append
  deliveries_append)

variable {α : Type} {q q' : SharedQueue α} {action : QueueAction α}
  {told later : List (QueueNotice α)} {begun : List α}

/-! ## Attempts under way -/

/-- The attempts under way, each as its item and its ticket. -/
def underWay (q : SharedQueue α) : List (α × Nat) :=
  (q.granted ++ q.waiting).map fun a => (a.item, a.ticket)

/-- The attempts under way have different tickets. -/
def HasTickets (q : SharedQueue α) : Prop := ((q.granted ++ q.waiting).map (·.ticket)).Nodup

/-- To keep room for somebody changes nothing but the lines. -/
theorem grant_eq (q : SharedQueue α) :
    q.grant = { q with waiting := q.grant.waiting, granted := q.grant.granted } := by
  unfold grant
  split
  next => rfl
  next => rfl

theorem tickets_grant (q : SharedQueue α) : q.grant.tickets = q.tickets := by
  rw [grant_eq]

theorem queue_grant (q : SharedQueue α) : q.grant.queue = q.queue := by
  rw [grant_eq]

theorem hasConsumer_grant (q : SharedQueue α) : q.grant.hasConsumer = q.hasConsumer := by
  rw [grant_eq]

/-- Room that becomes free is kept for the first in line, who stays under way. -/
theorem underWay_grant (q : SharedQueue α) : q.grant.underWay = q.underWay := by
  unfold grant
  split
  next => rfl
  next a rest hwaiting => simp [underWay, hwaiting]

/-- An attempt is the only one with its ticket. -/
theorem perm_cons_filter {attempts : List (Attempt α)} (hnodup : (attempts.map (·.ticket)).Nodup)
    {a : Attempt α} (ha : a ∈ attempts) :
    attempts.Perm (a :: attempts.filter (·.ticket ≠ a.ticket)) := by
  induction attempts with
  | nil => cases ha
  | cons b attempts ih =>
    rw [List.map_cons, List.nodup_cons] at hnodup
    rcases List.mem_cons.1 ha with rfl | ha
    · -- Behind the attempt there is no other one with its ticket.
      have hself : attempts.filter (·.ticket ≠ a.ticket) = attempts := by
        refine List.filter_eq_self.2 fun c hc => ?_
        simpa using fun heq : c.ticket = a.ticket =>
          hnodup.1 (List.mem_map.2 ⟨c, hc, heq⟩)
      rw [List.filter_cons_of_neg (by simp), hself]
    · -- The head is another attempt, which the filter keeps in front.
      have hne : b.ticket ≠ a.ticket := fun heq =>
        hnodup.1 (List.mem_map.2 ⟨a, ha, heq.symm⟩)
      rw [List.filter_cons_of_pos (by simpa using hne)]
      exact ((ih hnodup.2 ha).cons b).trans (List.Perm.swap a b _)

namespace HasTickets

variable {a : Attempt α}

/-- The attempt with kept room is the only one of its ticket among those. -/
theorem granted (h : q.HasTickets) (ha : a ∈ q.granted) :
    q.granted.Perm (a :: q.granted.filter (·.ticket ≠ a.ticket)) := by
  refine perm_cons_filter ?_ ha
  rw [HasTickets, List.map_append] at h
  exact (List.nodup_append.1 h).1

/-- The attempt in line is the only one of its ticket there. -/
theorem waiting (h : q.HasTickets) (ha : a ∈ q.waiting) :
    q.waiting.Perm (a :: q.waiting.filter (·.ticket ≠ a.ticket)) := by
  refine perm_cons_filter ?_ ha
  rw [HasTickets, List.map_append] at h
  exact (List.nodup_append.1 h).2.1

/-- An attempt that room was kept for is not under way any more. -/
theorem underWay_of_granted (h : q.HasTickets) (ha : a ∈ q.granted) :
    q.underWay.Perm ((a.item, a.ticket) ::
      underWay { q with granted := q.granted.filter (·.ticket ≠ a.ticket) }) :=
  ((h.granted ha).append_right q.waiting).map fun b : Attempt α => (b.item, b.ticket)

/-- An attempt that was in line is not under way any more. -/
theorem underWay_of_waiting (h : q.HasTickets) (ha : a ∈ q.waiting) :
    q.underWay.Perm ((a.item, a.ticket) ::
      underWay { q with waiting := q.waiting.filter (·.ticket ≠ a.ticket) }) :=
  (((h.waiting ha).append_left q.granted).trans List.perm_middle).map
    fun b : Attempt α => (b.item, b.ticket)

end HasTickets

/-! ## Places -/

/-- The places that are taken or kept for somebody. -/
def taken (q : SharedQueue α) : Nat := q.queue.items.length + q.granted.length

/-- The places of a queue: no more are taken than there are, and nobody is in line unless all
are. -/
structure Places (q : SharedQueue α) : Prop where
  le_capacity : q.taken ≤ q.queue.capacity
  full : q.hasConsumer = true → q.waiting ≠ [] → q.queue.capacity ≤ q.taken

theorem isOpen_iff : q.isOpen = true ↔ q.isRunning = true ∧ q.hasConsumer = true := by
  rw [isOpen, Bool.and_eq_true]

theorem free_eq (q : SharedQueue α) : q.free = q.queue.capacity - q.taken :=
  Nat.sub_sub ..

/-- A place that was kept is kept no more. -/
theorem HasTickets.taken_of_granted {a : Attempt α} (h : q.HasTickets) (ha : a ∈ q.granted) :
    taken { q with granted := q.granted.filter (·.ticket ≠ a.ticket) } + 1 = q.taken := by
  have hlength := (h.granted ha).length_eq
  rw [List.length_cons] at hlength
  show q.queue.items.length + (q.granted.filter (·.ticket ≠ a.ticket)).length + 1 = q.taken
  rw [taken, hlength, Nat.add_assoc]

/-- An item that goes into the queue takes a place. -/
theorem taken_push (q : SharedQueue α) (item : α) :
    taken { q with queue := q.queue.push item } = q.taken + 1 := by
  show (q.queue.items ++ [item]).length + q.granted.length = q.taken + 1
  rw [List.length_append, List.length_singleton, taken]
  omega

namespace Places

/-- A place that became free is kept for the first in line, if there is one. -/
theorem grant (hspare : q.taken + 1 ≤ q.queue.capacity)
    (hfull : q.hasConsumer = true → q.waiting ≠ [] → q.queue.capacity ≤ q.taken + 1) :
    q.grant.Places := by
  unfold SharedQueue.grant
  split
  -- Nobody is in line: the place stays free, and the second invariant is about lines only.
  next hwaiting =>
    exact ⟨by omega, fun _ hline => absurd hwaiting hline⟩
  next a rest hwaiting =>
    -- The first in line gets the place, so that as many are taken as before it became free.
    have htaken : taken { q with waiting := rest, granted := q.granted ++ [a] } = q.taken + 1 := by
      show q.queue.items.length + (q.granted ++ [a]).length = q.taken + 1
      rw [List.length_append, List.length_singleton, taken, Nat.add_assoc]
    refine ⟨?_, ?_⟩
    · rw [htaken]
      exact hspare
    · intro hconsumer _
      rw [htaken]
      exact hfull hconsumer (by simp [hwaiting])

/-- **Places are kept**: every action leaves the places as they should be. -/
theorem turn (h : q.Places) (htickets : q.HasTickets) (hturn : Turn q action told q') :
    q'.Places := by
  have hle := h.le_capacity
  cases hturn with
  | @accept item _ hopen hfree =>
    have htaken := taken_push q item
    rw [free_eq] at hfree
    refine ⟨?_, ?_⟩
    · show taken { q with queue := q.queue.push item } ≤ q.queue.capacity
      omega
    · -- If somebody were in line, there would be no room.
      intro _ hline
      have hfull := h.full (isOpen_iff.1 hopen).2 hline
      omega
  | lineUp _ _ hfull =>
    rw [free_eq] at hfull
    refine ⟨hle, ?_⟩
    intro _ _
    show q.queue.capacity ≤ q.taken
    omega
  | @redeem a hgranted =>
    -- The place that was kept is taken now.
    have htaken :
        taken { q with
          granted := q.granted.filter (·.ticket ≠ a.ticket)
          queue := q.queue.push a.item } = q.taken := by
      rw [← htickets.taken_of_granted hgranted]
      exact taken_push { q with granted := q.granted.filter (·.ticket ≠ a.ticket) } a.item
    refine ⟨?_, ?_⟩
    · rw [htaken]
      exact hle
    · rw [htaken]
      exact h.full
  | forgo hgranted =>
    have htaken := htickets.taken_of_granted hgranted
    apply grant
    · rw [htaken]
      exact hle
    · rw [htaken]
      exact h.full
  | giveUp hwaiting =>
    exact ⟨hle, fun hconsumer _ => h.full hconsumer (List.ne_nil_of_mem hwaiting)⟩
  | slipIn hwaiting hopen _ hfree =>
    have hfull := h.full (isOpen_iff.1 hopen).2 (List.ne_nil_of_mem hwaiting)
    rw [free_eq] at hfree
    omega
  | lineUpAgain hwaiting =>
    exact ⟨hle, fun hconsumer _ => h.full hconsumer (List.ne_nil_of_mem hwaiting)⟩
  | @handOut item items _ _ hitems =>
    have htaken : taken { q with queue := { q.queue with items } } + 1 = q.taken := by
      show items.length + q.granted.length + 1 = q.taken
      rw [taken, hitems, List.length_cons]
      omega
    apply grant
    · rw [htaken]
      exact hle
    · rw [htaken]
      exact h.full
  | dropConsumer =>
    refine ⟨?_, nofun⟩
    show 0 + q.granted.length ≤ q.queue.capacity
    rw [taken] at hle
    omega
  | _ => exact ⟨hle, h.full⟩

end Places

/-! ## Books -/

/-- Every attempt that began is under way or was answered once. Attempts are counted. -/
def Books (begun : List α) (told : List (QueueNotice α)) (under : List (α × Nat)) : Prop :=
  (under ++ (acceptances told ++ refusals told)).Perm begun.zipIdx

namespace Books

variable {under under' : List (α × Nat)} {item : α} {ticket : Nat}

/-- Different attempts have different tickets. -/
theorem nodup_tickets (h : Books begun told under) :
    ((under ++ (acceptances told ++ refusals told)).map Prod.snd).Nodup := by
  rw [(h.map Prod.snd).nodup_iff, List.zipIdx_map_snd]
  exact List.nodup_range'

theorem perm (h : Books begun told under) (hunder : under'.Perm under) :
    Books begun told under' :=
  (hunder.append_right _).trans h

/-- An attempt that begins is under way. -/
theorem begin (h : Books begun told under) (item : α) :
    Books (begun ++ [item]) told ((item, begun.length) :: under) := by
  rw [Books, List.zipIdx_append, Nat.zero_add]
  exact (h.cons (item, begun.length)).trans (List.perm_append_singleton _ _).symm

/-- An attempt under way is accepted. -/
theorem accept (h : Books begun told under) (hunder : under.Perm ((item, ticket) :: under')) :
    Books begun (told ++ [.accepted ticket item]) under' := by
  have hbefore := h.perm hunder.symm
  have hmiddle :
      (acceptances told ++ (item, ticket) :: refusals told).Perm
        ((item, ticket) :: (acceptances told ++ refusals told)) := List.perm_middle
  rw [Books, acceptances_append, refusals_append, List.append_assoc (acceptances told)]
  rw [show refusals [QueueNotice.accepted ticket item] = [] from rfl, List.append_nil]
  exact ((hmiddle.append_left under').trans List.perm_middle).trans hbefore

/-- An attempt under way is refused. -/
theorem refuse (h : Books begun told under) (hunder : under.Perm ((item, ticket) :: under')) :
    Books begun (told ++ [.refused ticket item]) under' := by
  have hbefore := h.perm hunder.symm
  -- The refused attempt moves from those under way to the end of the refusals.
  have hlast :
      (acceptances told ++ (refusals told ++ [(item, ticket)])).Perm
        ((item, ticket) :: (acceptances told ++ refusals told)) := by
    rw [← List.append_assoc]
    exact List.perm_append_singleton _ _
  rw [Books, acceptances_append, refusals_append]
  rw [show acceptances [QueueNotice.refused ticket item] = [] from rfl, List.append_nil]
  exact ((hlast.append_left under').trans List.perm_middle).trans hbefore

/-- Nobody who is handed an item or finds nothing has an attempt under way. -/
theorem tell (h : Books begun told under) (haccepted : acceptances later = [])
    (hrefused : refusals later = []) : Books begun (told ++ later) under := by
  rw [Books, acceptances_append, refusals_append, haccepted, hrefused, List.append_nil,
    List.append_nil]
  exact h

end Books

/-- The items of the attempts that begin with an action. -/
def begins (q : SharedQueue α) : QueueAction α → List α
  | .enqueue item => if q.hasProducer then [item] else []
  | .resume _ | .dequeue | .cancel | .dropProducer | .dropConsumer | .elapse _ => []

/-- The books of a queue after some attempts began and the parties were told something. -/
structure Answers (begun : List α) (told : List (QueueNotice α)) (q : SharedQueue α) : Prop where
  tickets : q.tickets = begun.length
  books : Books begun told q.underWay

namespace Answers

/-- No two attempts under way have the same ticket, as each began once. -/
theorem hasTickets (h : Answers begun told q) : q.HasTickets := by
  have hnodup := h.books.nodup_tickets
  rw [List.map_append, underWay, List.map_map] at hnodup
  exact (List.nodup_append.1 hnodup).1

/-- A new attempt that is answered at once or not. -/
theorem enqueue (h : Answers begun told q) (hproducer : q.hasProducer = true) {item : α}
    (htickets : q'.tickets = q.tickets + 1)
    (hbooks : Books (begun ++ [item]) told ((item, q.tickets) :: q.underWay) →
      Books (begun ++ [item]) (told ++ later) q'.underWay) :
    Answers (begun ++ q.begins (.enqueue item)) (told ++ later) q' := by
  have hbegins : q.begins (.enqueue item) = [item] := if_pos hproducer
  rw [hbegins]
  -- The attempt counts as begun; whether it is answered at once is up to the action.
  refine ⟨?_, hbooks ?_⟩
  · rw [htickets, h.tickets, List.length_append, List.length_singleton]
  · rw [h.tickets]
    exact h.books.begin item

/-- An action that does not begin an attempt. -/
theorem goOn (h : Answers begun told q) (htickets : q'.tickets = q.tickets)
    (hbooks : Books begun (told ++ later) q'.underWay) :
    Answers (begun ++ []) (told ++ later) q' := by
  rw [List.append_nil]
  exact ⟨htickets.trans h.tickets, hbooks⟩

/-- An action that neither begins an attempt nor answers one. -/
theorem idle (h : Answers begun told q) (htickets : q'.tickets = q.tickets)
    (hunder : q'.underWay = q.underWay) (haccepted : acceptances later = [])
    (hrefused : refusals later = []) : Answers (begun ++ []) (told ++ later) q' := by
  apply h.goOn htickets
  rw [hunder]
  exact h.books.tell haccepted hrefused

/-- **The books are kept**: every action begins an attempt, answers one, or does neither. -/
theorem turn (h : Answers begun told q) (hturn : Turn q action later q') :
    Answers (begun ++ q.begins action) (told ++ later) q' := by
  cases hturn with
  | @noProducer item hproducer =>
    have hbegins : q.begins (.enqueue item) = [] := if_neg (by simp [hproducer])
    rw [hbegins]
    exact h.idle rfl rfl rfl rfl
  | refuse hproducer => exact h.enqueue hproducer rfl fun hbooks => hbooks.refuse (.refl _)
  | accept hproducer => exact h.enqueue hproducer rfl fun hbooks => hbooks.accept (.refl _)
  -- The new attempt ends up last among those under way, and the books do not depend on the order.
  | @lineUp item hproducer =>
    apply h.enqueue hproducer rfl
    intro hbooks
    rw [List.append_nil]
    apply hbooks.perm
    simp only [underWay, ← List.append_assoc, List.map_append, List.map_cons, List.map_nil]
    exact List.perm_append_singleton _ _
  -- Those whose room is kept are answered: with acceptance, or with refusal after the stop.
  | redeem hgranted =>
    exact h.goOn rfl (h.books.accept (h.hasTickets.underWay_of_granted hgranted))
  | forgo hgranted =>
    refine h.goOn ?_ ?_
    · rw [tickets_grant]
    · rw [underWay_grant]
      exact h.books.refuse (h.hasTickets.underWay_of_granted hgranted)
  -- Those in line are answered, or stand in line again and stay under way.
  | giveUp hwaiting =>
    exact h.goOn rfl (h.books.refuse (h.hasTickets.underWay_of_waiting hwaiting))
  | slipIn hwaiting =>
    exact h.goOn rfl (h.books.accept (h.hasTickets.underWay_of_waiting hwaiting))
  | lineUpAgain hwaiting =>
    refine h.goOn rfl (h.books.tell rfl rfl |>.perm ?_)
    refine .trans ?_ (h.hasTickets.underWay_of_waiting hwaiting).symm
    simp only [underWay, ← List.append_assoc, List.map_append, List.map_cons, List.map_nil]
    exact List.perm_append_singleton _ _
  -- No attempt is answered by handing an item out; somebody in line may only get a place.
  | handOut =>
    exact h.idle (tickets_grant _) (underWay_grant _) rfl rfl
  | noTurn | noConsumer | empty | close | cancel | dropProducer | dropConsumer | elapse =>
    exact h.idle rfl rfl rfl rfl

end Answers

/-! ## Order -/

/-- What was handed out and what is in the queue are what was accepted, in this order. When the
consumer is gone the rest is lost. -/
structure InOrder (told : List (QueueNotice α)) (q : SharedQueue α) : Prop where
  isPrefix : deliveries told ++ q.queue.items <+: (acceptances told).map Prod.fst
  all : q.hasConsumer = true →
    deliveries told ++ q.queue.items = (acceptances told).map Prod.fst

namespace InOrder

/-- An action by which nothing goes into the queue or out of it. -/
theorem idle (h : InOrder told q) (hconsumer : q'.hasConsumer = q.hasConsumer)
    (hitems : q'.queue.items = q.queue.items) (haccepted : acceptances later = [])
    (hdelivered : deliveries later = []) : InOrder (told ++ later) q' := by
  constructor
  · -- What was handed out is still the beginning of what was accepted.
    rw [deliveries_append, acceptances_append, hdelivered, haccepted, hitems, List.append_nil,
      List.append_nil]
    exact h.isPrefix
  · rw [deliveries_append, acceptances_append, hdelivered, haccepted, hitems, hconsumer,
      List.append_nil, List.append_nil]
    exact h.all

/-- An item goes into the queue, behind all others. -/
theorem push (h : InOrder told q) (hopen : q.isOpen = true) {item : α} {ticket : Nat}
    (hitems : q'.queue.items = q.queue.items ++ [item]) :
    InOrder (told ++ [.accepted ticket item]) q' := by
  have hall : deliveries (told ++ [.accepted ticket item]) ++ q'.queue.items =
      (acceptances (told ++ [.accepted ticket item])).map Prod.fst := by
    -- Both sides grow by the same item at their ends.
    calc
      _ = deliveries told ++ q.queue.items ++ [item] := by
        rw [deliveries_append, hitems, ← List.append_assoc]
        exact congrArg (· ++ q.queue.items ++ [item]) (List.append_nil _)
      _ = (acceptances told).map Prod.fst ++ [item] := by rw [h.all (isOpen_iff.1 hopen).2]
      _ = _ := by
        rw [acceptances_append, List.map_append]
        rfl
  exact ⟨hall ▸ List.prefix_rfl, fun _ => hall⟩

/-- The oldest item goes out of the queue. -/
theorem pop (h : InOrder told q) (hconsumer : q'.hasConsumer = q.hasConsumer) {item : α}
    (hitems : q.queue.items = item :: q'.queue.items) :
    InOrder (told ++ [.handedOut item]) q' := by
  -- The item only moves from the queue to what was handed out.
  have hnow : deliveries (told ++ [.handedOut item]) ++ q'.queue.items =
      deliveries told ++ q.queue.items := by
    rw [deliveries_append, hitems, List.append_assoc]
    rfl
  have haccepted : acceptances (told ++ [.handedOut item]) = acceptances told := by
    rw [acceptances_append]
    exact List.append_nil _
  constructor
  · rw [hnow, haccepted]
    exact h.isPrefix
  · rw [hnow, haccepted, hconsumer]
    exact h.all

/-- **The order is kept**: every action leaves what was handed out and what is in the queue as what
was accepted, in this order. -/
theorem turn (h : InOrder told q) (hturn : Turn q action later q') :
    InOrder (told ++ later) q' := by
  cases hturn with
  -- The three ways in which an item is accepted put it behind all others.
  | accept _ hopen => exact h.push hopen rfl
  | redeem _ hopen => exact h.push hopen rfl
  | slipIn _ hopen => exact h.push hopen rfl
  | forgo =>
    exact h.idle (by rw [hasConsumer_grant]) (by rw [queue_grant]) rfl rfl
  | handOut _ _ hitems =>
    exact h.pop (by rw [hasConsumer_grant]) (by rw [queue_grant]; exact hitems)
  -- What is in the queue is lost with its consumer, and only the beginning remains.
  | dropConsumer =>
    rw [List.append_nil]
    refine ⟨?_, nofun⟩
    show deliveries told ++ [] <+: _
    rw [List.append_nil]
    exact (List.prefix_append _ _).trans h.isPrefix
  | noProducer | refuse | lineUp | noTurn | giveUp | lineUpAgain | noConsumer | empty | close
  | cancel | dropProducer | elapse => exact h.idle rfl rfl rfl rfl

end InOrder

end SharedQueue

end ChangeFeed

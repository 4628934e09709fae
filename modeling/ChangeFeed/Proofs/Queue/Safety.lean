import ChangeFeed.Proofs.Queue.Books
import Mathlib.Data.List.Nodup

/-!
# Queues of bounded length: Safety

What producers and the consumer can rely on in every run, in whatever order they go on: nothing is
lost, nothing comes twice, nobody waits for room that is there, and nothing happens any more when
the session was cancelled.

## Main results

* `Ledger.run`: places, books and order are kept in every run.
* `ready?_settleWithin`: everybody who can go on does so in finitely many turns.
* `contended_queue_is_safe`: a queue that is shared is safe after every run.
-/

namespace ChangeFeed

/-- The items of the attempts that begin, until the last producer is gone. -/
def QueueAction.begun {α : Type} : List (QueueAction α) → List α
  | [] => []
  | .enqueue item :: actions => item :: begun actions
  | .dropProducer :: _ => []
  | .resume _ :: actions | .dequeue :: actions | .cancel :: actions | .dropConsumer :: actions
  | .elapse _ :: actions => begun actions

namespace SharedQueue

open QueueNotice (acceptances refusals deliveries)

variable {α : Type} {q q' : SharedQueue α} {action : QueueAction α}
  {told later : List (QueueNotice α)} {begun : List α} {capacity pollTimeout : Nat}

/-! ## What stays -/

namespace Turn

/-- The capacity never changes. -/
theorem capacity_eq (hturn : Turn q action told q') : q'.queue.capacity = q.queue.capacity := by
  cases hturn with
  | forgo => rw [queue_grant]
  | handOut => rw [queue_grant]
  | _ => rfl

/-- Nor does the time that an attempt waits before it looks again. -/
theorem pollTimeout_eq (hturn : Turn q action told q') : q'.pollTimeout = q.pollTimeout := by
  cases hturn with
  | forgo => rw [grant_eq]
  | handOut => rw [grant_eq]
  | _ => rfl

/-- Producers stay until the last one is dropped. -/
theorem hasProducer_eq (hturn : Turn q action told q') (hstays : action ≠ .dropProducer) :
    q'.hasProducer = q.hasProducer := by
  cases hturn with
  | forgo => rw [grant_eq]
  | handOut => rw [grant_eq]
  | dropProducer => exact absurd rfl hstays
  | _ => rfl

/-- A session that does not run does not run again. -/
theorem stopped (hturn : Turn q action told q') (hstopped : q.isRunning = false) :
    q'.isRunning = false := by
  cases hturn with
  | forgo => rw [grant_eq]; exact hstopped
  | handOut => rw [grant_eq]; exact hstopped
  | cancel => rfl
  | _ => exact hstopped

/-- Nobody is refused as long as items are accepted, and items are not accepted again later. -/
theorem isOpen_before (hturn : Turn q action told q') (hopen : q'.isOpen = true) :
    q.isOpen = true ∧ refusals told = [] := by
  cases hturn with
  -- A refusal means that the queue was closed, and it does not open again.
  | refuse _ hclosed =>
    change q.isOpen = true at hopen
    simp [hclosed] at hopen
  | giveUp _ hclosed =>
    change q.isOpen = true at hopen
    simp [hclosed] at hopen
  | forgo _ hclosed =>
    rw [grant_eq] at hopen
    change q.isOpen = true at hopen
    simp [hclosed] at hopen
  | handOut =>
    rw [grant_eq] at hopen
    exact ⟨hopen, rfl⟩
  | cancel => simp [isOpen] at hopen
  | dropConsumer => simp [isOpen] at hopen
  | _ => exact ⟨hopen, rfl⟩

/-- When the session does not run nothing is accepted and nothing is handed out. -/
theorem told_of_stopped (hturn : Turn q action told q') (hstopped : q.isRunning = false) :
    ∀ notice ∈ told, notice = .empty ∨ ∃ ticket item, notice = .refused ticket item := by
  have hclosed : q.isOpen = false := by simp [isOpen, hstopped]
  cases hturn with
  | refuse | forgo | giveUp =>
    intro notice hnotice
    exact .inr ⟨_, _, List.mem_singleton.1 hnotice⟩
  | empty =>
    intro notice hnotice
    exact .inl (List.mem_singleton.1 hnotice)
  -- To accept an item the queue must be open, and to hand one out the session must run.
  | accept _ hopen => simp [hclosed] at hopen
  | redeem _ hopen => simp [hclosed] at hopen
  | slipIn _ hopen => simp [hclosed] at hopen
  | handOut _ hrunning => simp [hstopped] at hrunning
  | close _ hrunning => simp [hstopped] at hrunning
  | _ =>
    intro notice hnotice
    cases hnotice

/-- The end is told when everything was handed out. -/
theorem drained_of_closed (hturn : Turn q action told q') (hclosed : .closed ∈ told) :
    q.hasConsumer = true ∧ q.isDrained = true := by
  cases hturn with
  | close hconsumer _ hdrained => exact ⟨hconsumer, hdrained⟩
  | _ => simp at hclosed

/-- The attempts that begin with an action and after it. -/
theorem begins_append (hturn : Turn q action told q') (actions : List (QueueAction α)) :
    q.begins action ++ (if q'.hasProducer then QueueAction.begun actions else []) =
      if q.hasProducer then QueueAction.begun (action :: actions) else [] := by
  cases action with
  | dropProducer =>
    -- Only the loss of the last producer ends what is still to begin.
    cases hturn with
    | dropProducer => simp [begins, QueueAction.begun]
  | enqueue item =>
    rw [hturn.hasProducer_eq nofun]
    cases hproducer : q.hasProducer <;> simp [begins, QueueAction.begun, hproducer]
  | _ =>
    rw [hturn.hasProducer_eq nofun]
    rfl

end Turn

/-- After a cancellation the session does not run any more. -/
theorem isRunning_of_cancel {actions : List (QueueAction α)} (hcancel : .cancel ∈ actions) :
    (q.run actions).2.isRunning = false := by
  induction actions generalizing q with
  | nil => cases hcancel
  | cons action actions ih =>
    rw [run_cons]
    rcases List.mem_cons.1 hcancel with rfl | hlater
    · -- No later action lets the session run again.
      apply run_induction (P := fun q => q.isRunning = false)
      · intro q q' action told hstopped hturn
        exact hturn.stopped hstopped
      · rfl
    · exact ih hlater

/-! ## Runs -/

/-- All that is kept about a queue. -/
structure Ledger (capacity pollTimeout : Nat) (begun : List α) (told : List (QueueNotice α))
    (q : SharedQueue α) : Prop where
  capacity_eq : q.queue.capacity = capacity
  pollTimeout_eq : q.pollTimeout = pollTimeout
  places : q.Places
  answers : Answers begun told q
  inOrder : InOrder told q
  /-- Nobody was refused as long as items are accepted. -/
  unrefused : q.isOpen = true → refusals told = []

namespace Ledger

/-- The ledger of a new queue is empty and right. -/
theorem ofCapacity (capacity pollTimeout : Nat) :
    Ledger (α := α) (max capacity 1) pollTimeout [] [] (.ofCapacity capacity pollTimeout) where
  capacity_eq := rfl
  pollTimeout_eq := rfl
  places := ⟨Nat.zero_le _, fun _ hline => absurd rfl hline⟩
  answers := ⟨rfl, .nil⟩
  inOrder := ⟨List.prefix_rfl, fun _ => rfl⟩
  unrefused _ := rfl

/-- The ledger stays right with every action. -/
theorem turn (h : Ledger capacity pollTimeout begun told q) (hturn : Turn q action later q') :
    Ledger capacity pollTimeout (begun ++ q.begins action) (told ++ later) q' where
  capacity_eq := hturn.capacity_eq.trans h.capacity_eq
  pollTimeout_eq := hturn.pollTimeout_eq.trans h.pollTimeout_eq
  places := h.places.turn h.answers.hasTickets hturn
  answers := h.answers.turn hturn
  inOrder := h.inOrder.turn hturn
  -- Nobody is refused while the queue is open, and it was open all the time if it is now.
  unrefused := by
    intro hopen
    obtain ⟨hbefore, hnone⟩ := hturn.isOpen_before hopen
    rw [QueueNotice.refusals_append, h.unrefused hbefore, hnone]
    rfl

/-- **The ledger is kept** in every run. -/
theorem run (h : Ledger capacity pollTimeout begun told q) (actions : List (QueueAction α)) :
    Ledger capacity pollTimeout
      (begun ++ if q.hasProducer then QueueAction.begun actions else [])
      (told ++ (q.run actions).1) (q.run actions).2 := by
  induction actions generalizing begun told q with
  | nil => simpa [QueueAction.begun] using h
  | cons action actions ih =>
    have hturn := Turn.of_step q action
    have hlater := ih (h.turn hturn)
    -- What the first action begins and tells comes before what the later ones do.
    rw [List.append_assoc, hturn.begins_append, List.append_assoc] at hlater
    rw [run_cons]
    exact hlater

end Ledger

/-! ## Settling -/

/-- The number of attempts that can go on. -/
def readiness (q : SharedQueue α) : Nat := q.granted.length + q.waiting.countP q.isDue

/-- What is ready is pending, each attempt at most once. -/
theorem readiness_le_pending (q : SharedQueue α) : q.readiness ≤ q.pending := by
  have hdue := List.countP_le_length (p := q.isDue) (l := q.waiting)
  rw [readiness, pending]
  omega

/-- When nobody can go on nothing is kept for anybody, and nobody in line is due. -/
theorem ready?_eq_none_iff : q.ready? = none ↔ q.granted = [] ∧ q.waiting.countP q.isDue = 0 := by
  rw [ready?, Option.map_eq_none_iff, Option.or_eq_none_iff, List.head?_eq_none_iff,
    List.find?_eq_none, List.countP_eq_zero]

theorem ready?_of_readiness (h : q.readiness = 0) : q.ready? = none := by
  rw [readiness, Nat.add_eq_zero_iff, List.length_eq_zero_iff] at h
  exact ready?_eq_none_iff.2 h

/-- The attempt that goes on next has room that is kept for it, or is in line and due. -/
theorem of_ready? {ticket : Nat} (h : q.ready? = some ticket) :
    q.granted.find? (·.ticket = ticket) ≠ none ∨
      ∃ a ∈ q.waiting, q.isDue a = true ∧ a.ticket = ticket := by
  rw [ready?, Option.map_eq_some_iff] at h
  obtain ⟨a, ha, hticket⟩ := h
  -- Whoever has room kept comes first, before those in line whose time has come.
  cases hgranted : q.granted with
  | nil =>
    rw [hgranted, List.head?_nil, Option.none_or] at ha
    exact .inr ⟨a, List.mem_of_find?_eq_some ha, List.find?_some ha, hticket⟩
  | cons b rest =>
    rw [hgranted, List.head?_cons, Option.some_or, Option.some.injEq] at ha
    refine .inl ?_
    rw [List.find?_cons_of_pos (by simp [ha, hticket])]
    exact Option.some_ne_none b

/-- Somebody in line who is due is due no more when he left the line. -/
theorem HasTickets.countP_of_waiting {a : Attempt α} (h : q.HasTickets) (ha : a ∈ q.waiting)
    (hdue : q.isDue a = true) :
    (q.waiting.filter (·.ticket ≠ a.ticket)).countP q.isDue + 1 = q.waiting.countP q.isDue := by
  rw [(h.waiting ha).countP_eq, List.countP_cons_of_pos hdue]

/-- Who gets room when nothing is accepted any more could go on anyway. -/
theorem readiness_grant (hclosed : q.isOpen = false) : q.grant.readiness = q.readiness := by
  unfold grant
  split
  next => rfl
  next a rest hwaiting =>
    -- In a closed queue everybody is due, so that the place goes to one who is ready in any case.
    have hdue : q.isDue a = true := by simp [isDue, hclosed]
    show (q.granted ++ [a]).length + rest.countP q.isDue = q.readiness
    rw [readiness, hwaiting, List.countP_cons_of_pos hdue, List.length_append,
      List.length_singleton]
    omega

theorem HasTickets.length_of_granted {a : Attempt α} (h : q.HasTickets) (ha : a ∈ q.granted) :
    (q.granted.filter (·.ticket ≠ a.ticket)).length + 1 = q.granted.length := by
  rw [(h.granted ha).length_eq, List.length_cons]

/-- Whoever is due and in line is found there. -/
theorem HasTickets.find?_waiting {a : Attempt α} (h : q.HasTickets) (ha : a ∈ q.waiting) :
    q.waiting.find? (·.ticket = a.ticket) = some a := by
  rw [HasTickets, List.map_append] at h
  -- Attempts in line have different tickets, so the one that is found is the one that is looked
  -- for.
  have hnodup := (List.nodup_append.1 h).2.1
  cases hfound : q.waiting.find? (·.ticket = a.ticket) with
  | none => exact absurd (List.find?_eq_none.1 hfound a ha) (by simp)
  | some b =>
    have hticket : b.ticket = a.ticket := by simpa using List.find?_some hfound
    have hsame := List.inj_on_of_nodup_map hnodup (List.mem_of_find?_eq_some hfound) ha hticket
    rw [hsame]

/-- **Progress**: after the turn of an attempt that can go on fewer can. -/
theorem Turn.readiness_lt {ticket : Nat} (hturn : Turn q (.resume ticket) told q')
    (htickets : q.HasTickets) (hpoll : 0 < q.pollTimeout) (hready : q.ready? = some ticket) :
    q'.readiness < q.readiness := by
  cases hturn with
  | noTurn hgranted hwaiting =>
    rcases of_ready? hready with hkept | ⟨a, ha, hdue, rfl⟩
    · exact absurd hgranted hkept
    · have hnot := hwaiting a (htickets.find?_waiting ha)
      exact absurd hdue (by simp [hnot])
  | @redeem a hgranted =>
    have hlength := htickets.length_of_granted hgranted
    show (q.granted.filter (·.ticket ≠ a.ticket)).length + q.waiting.countP q.isDue < q.readiness
    rw [readiness]
    omega
  | @forgo a hgranted hclosed =>
    have hlength := htickets.length_of_granted hgranted
    rw [readiness_grant (by exact hclosed)]
    show (q.granted.filter (·.ticket ≠ a.ticket)).length + q.waiting.countP q.isDue < q.readiness
    rw [readiness]
    omega
  | @giveUp a hwaiting hclosed =>
    have hcount := htickets.countP_of_waiting hwaiting (by simp [isDue, hclosed])
    show q.granted.length + (q.waiting.filter (·.ticket ≠ a.ticket)).countP q.isDue < q.readiness
    rw [readiness]
    omega
  | @slipIn a hwaiting _ hdue =>
    have hcount := htickets.countP_of_waiting hwaiting hdue
    show q.granted.length + (q.waiting.filter (·.ticket ≠ a.ticket)).countP q.isDue < q.readiness
    rw [readiness]
    omega
  | @lineUpAgain a hwaiting hopen hdue =>
    have hcount := htickets.countP_of_waiting hwaiting hdue
    -- At the end of the line the attempt waits anew.
    have hwaits : q.isDue ⟨a.ticket, a.item, q.now + q.pollTimeout⟩ = false := by
      rw [isDue, hopen, Bool.not_true, Bool.false_or, decide_eq_false_iff_not]
      show ¬ q.now + q.pollTimeout ≤ q.now
      omega
    show q.granted.length + List.countP q.isDue (q.waiting.filter (·.ticket ≠ a.ticket) ++
      [⟨a.ticket, a.item, q.now + q.pollTimeout⟩]) < q.readiness
    rw [List.countP_append, List.countP_singleton, hwaits, readiness]
    simp only [Bool.false_eq_true, if_false]
    omega

theorem settleWithin_eq_run (q : SharedQueue α) (n : Nat) :
    ∃ tickets : List Nat, q.settleWithin n = q.run (tickets.map .resume) := by
  -- The induction is on the bound: every round resumes one more attempt, or nobody is ready.
  induction n generalizing q with
  | zero => exact ⟨[], rfl⟩
  | succ n ih =>
    rw [settleWithin]
    split
    next => exact ⟨[], rfl⟩
    next ticket _ =>
      obtain ⟨tickets, hlater⟩ := ih (q.step (.resume ticket)).2
      refine ⟨ticket :: tickets, ?_⟩
      rw [List.map_cons, run_cons, ← hlater]

/-- **Everybody goes on who can**: after that many turns there is nobody left. -/
theorem Ledger.ready?_settleWithin (h : Ledger capacity pollTimeout begun told q)
    (hpoll : 0 < pollTimeout) {n : Nat} (hn : q.readiness ≤ n) :
    (q.settleWithin n).2.ready? = none := by
  -- Every turn leaves fewer attempts ready, so the bound is not used up while there are any.
  induction n generalizing begun told q with
  | zero => exact ready?_of_readiness (Nat.le_zero.1 hn)
  | succ n ih =>
    rw [settleWithin]
    split
    next hnobody => exact hnobody
    next ticket hready =>
      have hturn := Turn.of_step q (.resume ticket)
      have hless := hturn.readiness_lt h.answers.hasTickets (h.pollTimeout_eq ▸ hpoll) hready
      exact ih (h.turn hturn) (by omega)

/-! ## Safety -/

/-- The consumer gets the oldest item. -/
theorem step_dequeue_of_items (hopen : q.isOpen = true) {item : α} {items : List α}
    (hitems : q.queue.items = item :: items) : (q.step .dequeue).1 = [.handedOut item] := by
  obtain ⟨hrunning, hconsumer⟩ := isOpen_iff.1 hopen
  simp only [step, hconsumer, if_true, handOut, hrunning, Bool.not_true, Bool.false_eq_true,
    if_false, BoundedQueue.take?, hitems]

/-- A queue that is used in a safe way: `told` is what its parties were told while they did
`actions`. -/
structure IsSafe (capacity : Nat) (actions : List (QueueAction α)) (told : List (QueueNotice α))
    (q : SharedQueue α) : Prop where
  /-- There are never more items in the queue than it has places. -/
  bounded : q.queue.size ≤ max capacity 1
  /-- The consumer got what was accepted, in this order, and nothing twice. -/
  ordered : deliveries told <+: (acceptances told).map Prod.fst
  /-- While the queue is in use nobody is refused, and what was accepted is handed out or there. -/
  kept : q.isOpen = true → refusals told = [] ∧
    deliveries told ++ q.queue.items = (acceptances told).map Prod.fst
  /-- While the queue is in use whoever asks for an item gets the oldest one. -/
  served : q.isOpen = true → ∀ item items, q.queue.items = item :: items →
    (q.step .dequeue).1 = [.handedOut item]
  /-- Every attempt that began is under way or was answered once. -/
  answered : (q.underWay ++ (acceptances told ++ refusals told)).Perm
    (QueueAction.begun actions).zipIdx
  /-- What was refused is not accepted as well. -/
  refused : ∀ e ∈ refusals told, e ∉ acceptances told
  /-- What was refused is not handed out. -/
  dropped : (QueueAction.begun actions).Nodup →
    ∀ e ∈ refusals told, e.1 ∉ deliveries told
  /-- When nobody can go on, somebody waits only for room in a queue that is full and in use. -/
  awake : q.ready? = none → 0 < q.pending → q.isOpen = true ∧ q.queue.size = max capacity 1
  /-- After finitely many turns nobody can go on. -/
  settles : ∃ tickets : List Nat, q.settle = q.run (tickets.map .resume) ∧ q.settle.2.ready? = none
  /-- After the session was cancelled nothing is accepted and nothing is handed out. -/
  stopped : .cancel ∈ actions → ∀ action, ∀ notice ∈ (q.step action).1,
    notice = .empty ∨ ∃ ticket item, notice = .refused ticket item
  /-- The consumer learns of the end when nobody is there and it has got everything. -/
  closed : ∀ action, .closed ∈ (q.step action).1 →
    q.hasProducer = false ∧ q.pending = 0 ∧ deliveries told = (acceptances told).map Prod.fst

namespace Ledger

variable (h : Ledger capacity pollTimeout begun told q)
include h

theorem size_le : q.queue.size ≤ capacity := by
  have hplaces := h.places.le_capacity
  rw [h.capacity_eq, taken] at hplaces
  rw [BoundedQueue.size]
  omega

/-- Nothing is lost while the queue is in use. -/
theorem kept (hopen : q.isOpen = true) : refusals told = [] ∧
    deliveries told ++ q.queue.items = (acceptances told).map Prod.fst :=
  ⟨h.unrefused hopen, h.inOrder.all (isOpen_iff.1 hopen).2⟩

theorem not_accepted : ∀ e ∈ refusals told, e ∉ acceptances told := by
  intro e hrefused haccepted
  -- Both answers would carry the ticket of one attempt.
  have hnodup := h.answers.books.nodup_tickets
  rw [List.map_append, List.map_append] at hnodup
  have hdisjoint := (List.nodup_append.1 (List.nodup_append.1 hnodup).2.1).2.2
  exact hdisjoint _ (List.mem_map_of_mem haccepted) _ (List.mem_map_of_mem hrefused) rfl

theorem not_delivered (hbegun : begun.Nodup) : ∀ e ∈ refusals told, e.1 ∉ deliveries told := by
  intro e hrefused hdelivered
  have haccepted : e.1 ∈ (acceptances told).map Prod.fst :=
    h.inOrder.isPrefix.subset (List.mem_append_left _ hdelivered)
  obtain ⟨e', haccepted, hitem⟩ := List.mem_map.1 haccepted
  -- An item with one attempt only cannot have two answers.
  have hsame : e' = e := by
    have hnodup : (begun.zipIdx.map Prod.fst).Nodup := by rwa [List.zipIdx_map_fst]
    have hsubset : acceptances told ++ refusals told ⊆ begun.zipIdx :=
      fun _ hanswer => h.answers.books.subset (List.mem_append_right _ hanswer)
    exact List.inj_on_of_nodup_map hnodup (hsubset (List.mem_append_left _ haccepted))
      (hsubset (List.mem_append_right _ hrefused)) hitem
  exact h.not_accepted e hrefused (hsame ▸ haccepted)

/-- **No wake-up is lost**: whoever cannot go on waits for a queue that is full. -/
theorem full_of_ready? (hready : q.ready? = none) (hpending : 0 < q.pending) :
    q.isOpen = true ∧ q.queue.size = capacity := by
  obtain ⟨hgranted, hdue⟩ := ready?_eq_none_iff.1 hready
  have hwaiting : q.waiting ≠ [] := by
    intro hwaiting
    simp [pending, hgranted, hwaiting] at hpending
  -- If nothing were accepted any more, whoever is in line could go on.
  have hopen : q.isOpen = true := by
    obtain ⟨a, ha⟩ := List.exists_mem_of_ne_nil _ hwaiting
    have hnot := List.countP_eq_zero.1 hdue a ha
    simp only [isDue, Bool.or_eq_true, Bool.not_eq_true', not_or, Bool.not_eq_false] at hnot
    exact hnot.1
  refine ⟨hopen, Nat.le_antisymm h.size_le ?_⟩
  have hfull := h.places.full (isOpen_iff.1 hopen).2 hwaiting
  rw [h.capacity_eq, taken, hgranted] at hfull
  exact hfull

/-- Everything was handed out when the end is told. -/
theorem all_delivered (hturn : Turn q action later q') (hclosed : .closed ∈ later) :
    q.hasProducer = false ∧ q.pending = 0 ∧
      deliveries told = (acceptances told).map Prod.fst := by
  obtain ⟨hconsumer, hdrained⟩ := hturn.drained_of_closed hclosed
  -- The consumer is told of the end only when nothing is left anywhere.
  simp only [isDrained, Bool.and_eq_true, Bool.not_eq_true', List.isEmpty_iff] at hdrained
  obtain ⟨⟨⟨hproducer, hwaiting⟩, hgranted⟩, hitems⟩ := hdrained
  refine ⟨hproducer, ?_, ?_⟩
  · rw [pending, hwaiting, hgranted]
    rfl
  · have hall := h.inOrder.all hconsumer
    rw [hitems, List.append_nil] at hall
    exact hall

end Ledger

/-- **A shared queue is safe**, whatever its capacity is and in whatever order any number of
producers and the consumer go on, wait, are cancelled and leave. -/
theorem contended_queue_is_safe (capacity pollTimeout : Nat) (hpoll : 0 < pollTimeout)
    (actions : List (QueueAction α)) :
    IsSafe capacity actions ((ofCapacity capacity pollTimeout).run actions).1
      ((ofCapacity capacity pollTimeout).run actions).2 := by
  have hledger := (Ledger.ofCapacity (α := α) capacity pollTimeout).run actions
  rw [List.nil_append, List.nil_append] at hledger
  change Ledger _ _ (QueueAction.begun actions) _ _ at hledger
  -- Each part of safety is read off the ledger, which is right after every run.
  exact {
    bounded := hledger.size_le
    ordered := (List.prefix_append _ _).trans hledger.inOrder.isPrefix
    kept := hledger.kept
    served := fun hopen _ _ hitems => step_dequeue_of_items hopen hitems
    answered := hledger.answers.books
    refused := hledger.not_accepted
    dropped := hledger.not_delivered
    awake := hledger.full_of_ready?
    settles := by
      obtain ⟨tickets, hsettle⟩ := settleWithin_eq_run _ _
      exact ⟨tickets, hsettle, hledger.ready?_settleWithin hpoll (readiness_le_pending _)⟩
    stopped := fun hcancel action =>
      (Turn.of_step _ action).told_of_stopped (isRunning_of_cancel hcancel)
    closed := fun action => hledger.all_delivered (Turn.of_step _ action)
  }

/-- Two items pass through a queue with one place, and a third one is refused after the stop. -/
theorem contended_queue_is_safe_until_stop :
    0 < 3000 ∧
    ((ofCapacity 1 3000).run
      [.enqueue 0, .enqueue 1, .dequeue, .resume 1, .enqueue 2, .cancel, .resume 2, .dequeue]).1 =
        [.accepted 0 0, .handedOut 0, .accepted 1 1, .refused 2 2, .empty] ∧
    IsSafe 1
      [.enqueue 0, .enqueue 1, .dequeue, .resume 1, .enqueue 2, .cancel, .resume 2, .dequeue]
      [.accepted 0 0, .handedOut 0, .accepted 1 1, .refused 2 2, .empty]
      ((ofCapacity 1 3000).run
        [.enqueue 0, .enqueue 1, .dequeue, .resume 1, .enqueue 2, .cancel, .resume 2,
          .dequeue]).2 :=
  ⟨by decide, by decide, contended_queue_is_safe 1 3000 (by decide) _⟩

end SharedQueue

end ChangeFeed

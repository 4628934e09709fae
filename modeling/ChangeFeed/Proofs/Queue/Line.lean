import ChangeFeed.Proofs.Queue.Safety
import Mathlib.Data.List.Dedup

/-!
# Queues of bounded length: The line

In which order do producers get room that had to wait for it? Nobody gets past the line, and room
that becomes free is kept for the first in it. But whoever has waited out the poll timeout goes to
the end of the line, behind those who came later. So the line stands in the order in which its
producers went to its end for the *last* time, and one that began later comes first only if the
other one waited out its timeout in the meantime.

## Main results

* `Turn.line_cases`: what an action can do to the line.
* `Line.turn`: every action leaves the line in this order.
* `served_by_last_lining_up`: who can be accepted while somebody waits.
* `place_is_lost_at_timeout`: a producer that waits is overtaken.
-/

namespace ChangeFeed.SharedQueue

variable {α : Type} {q q' : SharedQueue α} {action : QueueAction α}
  {told : List (QueueNotice α)} {log : List (Nat × Nat)} {a : Attempt α}

/-! ## Who goes to the end of the line -/

/-- The ticket of the attempt that goes to the end of the line with an action, if one does. -/
def linesUp? (q : SharedQueue α) : QueueAction α → Option Nat
  | .enqueue _ => if q.hasProducer && q.isOpen && q.free == 0 then some q.tickets else none
  | .resume ticket =>
    if q.isOpen && q.free == 0 &&
        q.waiting.any fun a => a.ticket == ticket && decide (a.deadline ≤ q.now) then
      some ticket
    else none
  | .dequeue | .cancel | .dropProducer | .dropConsumer | .elapse _ => none

/-- Who goes to the end of the line with an action, and when. -/
def lineUp (q : SharedQueue α) (action : QueueAction α) : List (Nat × Nat) :=
  ((q.linesUp? action).map fun ticket => (ticket, q.now)).toList

/-- Who goes to the end of the line in a run, and when, in this order. -/
def lineUps (q : SharedQueue α) : List (QueueAction α) → List (Nat × Nat)
  | [] => []
  | action :: actions => q.lineUp action ++ (q.step action).2.lineUps actions

theorem linesUp?_of_closed (hclosed : q.isOpen = false) : q.linesUp? action = none := by
  cases action <;> simp [linesUp?, hclosed]

theorem linesUp?_of_free (hfree : 0 < q.free) : q.linesUp? action = none := by
  have hroom : (q.free == 0) = false := by simp; omega
  cases action <;> simp [linesUp?, hroom]

/-- Whoever is not in line or has not waited long enough does not line up again. -/
theorem linesUp?_resume_of_not_due {ticket : Nat}
    (h : ∀ a ∈ q.waiting, a.ticket = ticket → q.now < a.deadline) :
    q.linesUp? (.resume ticket) = none := by
  have hnobody : (q.waiting.any fun a => a.ticket == ticket && decide (a.deadline ≤ q.now)) =
      false := by
    simpa using h
  simp [linesUp?, hnobody]

/-- The tickets of the attempts under way. Those that room is kept for were the first in line. -/
def line (q : SharedQueue α) : List Nat := (q.granted ++ q.waiting).map (·.ticket)

theorem mem_line (ha : a ∈ q.waiting) : a.ticket ∈ q.line :=
  List.mem_map_of_mem (List.mem_append_right _ ha)

/-- Without the ticket, nothing is taken away. -/
theorem filter_ticket_eq_self {attempts : List (Attempt α)} {t : Nat}
    (h : ∀ b ∈ attempts, b.ticket ≠ t) : attempts.filter (·.ticket ≠ t) = attempts := by
  refine List.filter_eq_self.2 fun b hb => ?_
  simpa using h b hb

/-- Whoever leaves the line leaves those alone that room is kept for. -/
theorem line_filter {t : Nat} (hgranted : ∀ b ∈ q.granted, b.ticket ≠ t) :
    q.line.filter (· ≠ t) = (q.granted ++ q.waiting.filter (·.ticket ≠ t)).map (·.ticket) := by
  rw [line, List.filter_map, List.filter_append]
  show (q.granted.filter (·.ticket ≠ t) ++ _).map _ = _
  rw [filter_ticket_eq_self hgranted]
  rfl

/-- Keeping room for the first in line leaves everybody under way where they were. -/
theorem line_grant (q : SharedQueue α) : q.grant.line = q.line := by
  unfold grant
  split
  next => rfl
  next a rest hwaiting => simp [line, hwaiting]

/-- Nobody joins the line when room is kept. -/
theorem waiting_grant_subset (q : SharedQueue α) : q.grant.waiting ⊆ q.waiting := by
  unfold grant
  split
  next => exact List.Subset.refl _
  next a rest hwaiting =>
    rw [hwaiting]
    exact List.subset_cons_self a rest

/-- Room is kept for the first in line. -/
theorem granted_grant (q : SharedQueue α) :
    q.grant.granted = q.granted ++ q.waiting.take 1 := by
  unfold grant
  split
  next hwaiting => rw [hwaiting, List.take_nil, List.append_nil]
  next a rest hwaiting => rw [hwaiting, List.take_succ_cons, List.take_zero]

/-- Nobody has room and waits for it as well. -/
theorem HasTickets.granted_ne_waiting (h : q.HasTickets) {b : Attempt α} (ha : a ∈ q.granted)
    (hb : b ∈ q.waiting) : a.ticket ≠ b.ticket := by
  rw [HasTickets, List.map_append] at h
  exact (List.nodup_append.1 h).2.2 _ (List.mem_map_of_mem ha) _ (List.mem_map_of_mem hb)

/-- **Inversion**: either nobody goes to the end of the line, and some may leave it, or one does,
which began just now or has waited out its timeout there, and all others keep their places. -/
theorem Turn.line_cases (hturn : Turn q action told q') (htickets : q.HasTickets)
    (hbegun : ∀ t ∈ q.line, t < q.tickets) :
    (q.linesUp? action = none ∧ q'.line.Sublist q.line ∧ q'.waiting ⊆ q.waiting) ∨
    ∃ a, q.linesUp? action = some a.ticket ∧ a.deadline = q.now + q.pollTimeout ∧
      q'.line = q.line.filter (· ≠ a.ticket) ++ [a.ticket] ∧
      q'.waiting = q.waiting.filter (·.ticket ≠ a.ticket) ++ [a] ∧
      (a.ticket = q.tickets ∧ q'.tickets = q.tickets + 1 ∨
        (∃ b ∈ q.waiting, b.ticket = a.ticket ∧ b.deadline ≤ q.now) ∧ q'.tickets = q.tickets) := by
  cases hturn with
  | noProducer hproducer =>
    exact .inl ⟨by simp [linesUp?, hproducer], .refl _, List.Subset.refl _⟩
  | refuse _ hclosed => exact .inl ⟨linesUp?_of_closed hclosed, .refl _, List.Subset.refl _⟩
  | accept _ _ hfree => exact .inl ⟨linesUp?_of_free hfree, .refl _, List.Subset.refl _⟩
  | @lineUp item hproducer hopen hfull =>
    -- A new attempt has a ticket of its own.
    have hwaiting : q.waiting.filter (·.ticket ≠ q.tickets) = q.waiting :=
      filter_ticket_eq_self fun b hb => Nat.ne_of_lt (hbegun b.ticket (mem_line hb))
    have hgranted : ∀ b ∈ q.granted, b.ticket ≠ q.tickets := fun b hb =>
      Nat.ne_of_lt (hbegun b.ticket (List.mem_map_of_mem (List.mem_append_left _ hb)))
    refine .inr ⟨⟨q.tickets, item, q.now + q.pollTimeout⟩, ?_, rfl, ?_, ?_, .inl ⟨rfl, rfl⟩⟩
    · simp [linesUp?, hproducer, hopen, hfull]
    · rw [line_filter hgranted, hwaiting]
      simp [line]
    · rw [hwaiting]
  | @noTurn ticket _ hwaiting =>
    refine .inl ⟨linesUp?_resume_of_not_due ?_, .refl _, List.Subset.refl _⟩
    rintro a ha rfl
    have hnot := hwaiting a (htickets.find?_waiting ha)
    simp only [isDue, Bool.or_eq_false_iff, decide_eq_false_iff_not, Nat.not_le] at hnot
    exact hnot.2
  | @redeem a hgranted =>
    refine .inl ⟨linesUp?_resume_of_not_due ?_, ?_, List.Subset.refl _⟩
    · intro b hb hsame
      exact absurd hsame.symm (htickets.granted_ne_waiting hgranted hb)
    · exact (List.filter_sublist.append_right _).map _
  | forgo _ hclosed =>
    refine .inl ⟨linesUp?_of_closed hclosed, ?_, waiting_grant_subset _⟩
    rw [line_grant]
    exact (List.filter_sublist.append_right _).map _
  | giveUp _ hclosed =>
    exact .inl ⟨linesUp?_of_closed hclosed, (List.filter_sublist.append_left _).map _,
      List.filter_subset_self _⟩
  | slipIn _ _ _ hfree =>
    exact .inl ⟨linesUp?_of_free hfree, (List.filter_sublist.append_left _).map _,
      List.filter_subset_self _⟩
  | @lineUpAgain a hwaiting hopen hdue hfull =>
    have hwaited : a.deadline ≤ q.now := by simpa [isDue, hopen] using hdue
    have hgranted : ∀ b ∈ q.granted, b.ticket ≠ a.ticket := fun b hb =>
      htickets.granted_ne_waiting hb hwaiting
    refine .inr ⟨⟨a.ticket, a.item, q.now + q.pollTimeout⟩, ?_, rfl, ?_, rfl,
      .inr ⟨⟨a, hwaiting, rfl, hwaited⟩, rfl⟩⟩
    · have hsomebody :
          (q.waiting.any fun b => b.ticket == a.ticket && decide (b.deadline ≤ q.now)) = true :=
        List.any_eq_true.2 ⟨a, hwaiting, by simpa using hwaited⟩
      simp [linesUp?, hopen, hfull, hsomebody]
    · rw [line_filter hgranted]
      simp [line]
  | noConsumer | empty | close | cancel | dropProducer | dropConsumer | elapse =>
    exact .inl ⟨rfl, .refl _, List.Subset.refl _⟩
  | handOut =>
    refine .inl ⟨rfl, ?_, waiting_grant_subset _⟩
    rw [line_grant]
    exact .refl _

/-- Tickets are only added. -/
theorem Turn.tickets_le (hturn : Turn q action told q') : q.tickets ≤ q'.tickets := by
  cases hturn with
  | refuse | accept | lineUp => exact Nat.le_succ _
  | forgo | handOut => exact Nat.le_of_eq (by rw [tickets_grant])
  | _ => exact Nat.le_refl _

/-! ## The order of the line -/

/-- What comes last stays, and what was there before goes. -/
theorem dedup_concat (tickets : List Nat) (t : Nat) :
    (tickets ++ [t]).dedup = tickets.dedup.filter (· ≠ t) ++ [t] := by
  induction tickets with
  | nil => rfl
  | cons u tickets ih =>
    rw [List.cons_append, List.dedup_cons, ih, List.dedup_cons]
    by_cases hu : u ∈ tickets
    · rw [if_pos hu, if_pos (List.mem_append_left _ hu)]
    · -- The head stays in front unless it is the ticket that goes to the end.
      rw [if_neg hu]
      by_cases hut : u = t
      · simp [hut]
      · simp [hu, hut]

/-- Of two members one comes first. -/
theorem pair_sublist_or {β : Type} {x y : β} {l : List β} (hx : x ∈ l) (hy : y ∈ l)
    (hne : x ≠ y) : [x, y].Sublist l ∨ [y, x].Sublist l := by
  induction l with
  | nil => cases hx
  | cons z l ih =>
    rcases List.mem_cons.1 hx with rfl | hx'
    · -- The one is in front, so the other one comes later.
      have hy' : y ∈ l := (List.mem_cons.1 hy).resolve_left hne.symm
      exact .inl ((List.singleton_sublist.2 hy').cons_cons x)
    rcases List.mem_cons.1 hy with rfl | hy'
    · exact .inr ((List.singleton_sublist.2 hx').cons_cons y)
    · exact (ih hx' hy').imp (·.cons z) (·.cons z)

/-- Whoever goes to the end of the line behind one that began later was in line before it, and has
waited out a timeout since. -/
def LinesUpInTurn (pollTimeout : Nat) (log : List (Nat × Nat)) : Prop :=
  ∀ later e, [later, e].Sublist log → e.1 < later.1 →
    ∃ e₀, [e₀, later, e].Sublist log ∧ e₀.1 = e.1 ∧ e₀.2 + pollTimeout ≤ e.2

/-- Attempts line up in turn, as long as each of them is new or has waited out its timeout. -/
theorem LinesUpInTurn.concat {pollTimeout : Nat} (h : LinesUpInTurn pollTimeout log)
    {last : Nat × Nat} (hjoins : (∀ e ∈ log, e.1 < last.1) ∨ ∃ e ∈ log, e.1 = last.1)
    (hwaited : ∀ e ∈ log, e.1 = last.1 → e.2 + pollTimeout ≤ last.2) :
    LinesUpInTurn pollTimeout (log ++ [last]) := by
  intro later e hsub hless
  obtain ⟨front, back, hsplit, hfront, hback⟩ := List.sublist_append_iff.1 hsub
  rcases List.sublist_singleton.1 hback with rfl | rfl
  · -- Both were in line before.
    rw [List.append_nil] at hsplit
    obtain ⟨e₀, hbehind, hfirst⟩ := h later e (hsplit ▸ hfront) hless
    exact ⟨e₀, hbehind.trans (List.sublist_append_left log [last]), hfirst⟩
  · obtain ⟨rfl, rfl⟩ : [later] = front ∧ e = last := by
      have hsplit : [later] ++ [e] = front ++ [last] := hsplit
      simpa using List.append_inj' hsplit rfl
    have hlater : later ∈ log := List.singleton_sublist.1 hfront
    obtain ⟨e₁, he₁, hsame⟩ := hjoins.resolve_left fun hnew =>
      Nat.lt_asymm hless (hnew later hlater)
    -- If it was there behind the later one only, then it was there earlier still.
    obtain ⟨e₀, hpair, hfirst⟩ : ∃ e₀, [e₀, later].Sublist log ∧ e₀.1 = e.1 := by
      rcases pair_sublist_or he₁ hlater (by rintro rfl; omega) with hpair | hpair
      · exact ⟨e₁, hpair, hsame⟩
      · obtain ⟨e₀, hbehind, hfirst, -⟩ := h later e₁ hpair (hsame ▸ hless)
        refine ⟨e₀, ?_, hfirst.trans hsame⟩
        exact (List.sublist_append_left [e₀, later] [e₁]).trans hbehind
    refine ⟨e₀, hpair.append_right [e], hfirst, ?_⟩
    exact hwaited e₀ (hpair.subset (List.mem_cons_self ..)) hfirst

/-- The line of a queue after some attempts went to its end. -/
structure Line (log : List (Nat × Nat)) (q : SharedQueue α) : Prop where
  /-- It stands in the order in which its attempts went there for the last time. -/
  inOrder : q.line.Sublist (log.map Prod.fst).dedup
  begun : ∀ e ∈ log, e.1 < q.tickets
  /-- Whoever is in line has waited out every timeout but the last one. -/
  waited : ∀ a ∈ q.waiting, ∀ e ∈ log, e.1 = a.ticket → e.2 + q.pollTimeout ≤ a.deadline
  inTurn : LinesUpInTurn q.pollTimeout log

namespace Line

/-- The line of a new queue is empty. -/
theorem ofCapacity (capacity pollTimeout : Nat) :
    Line [] (ofCapacity capacity pollTimeout : SharedQueue α) where
  inOrder := .slnil
  begun := nofun
  waited := nofun
  inTurn := nofun

/-- Whoever is under way in line went to its end. -/
theorem exists_mem_log (h : Line log q) {t : Nat} (ht : t ∈ q.line) : ∃ e ∈ log, e.1 = t := by
  simpa using h.inOrder.subset ht

theorem lt_tickets (h : Line log q) {t : Nat} (ht : t ∈ q.line) : t < q.tickets := by
  obtain ⟨e, he, rfl⟩ := h.exists_mem_log ht
  exact h.begun e he

/-- Some may leave the line. -/
theorem shrink (h : Line log q) (hline : q'.line.Sublist q.line) (hwaiting : q'.waiting ⊆ q.waiting)
    (htickets : q.tickets ≤ q'.tickets) (hpoll : q'.pollTimeout = q.pollTimeout) : Line log q' where
  inOrder := hline.trans h.inOrder
  begun e he := Nat.lt_of_lt_of_le (h.begun e he) htickets
  waited a ha := hpoll ▸ h.waited a (hwaiting ha)
  inTurn := hpoll ▸ h.inTurn

/-- An attempt goes to the end of the line. It began just now, or was there before and has waited
out its timeout. -/
theorem join (h : Line log q) (hline : q'.line = q.line.filter (· ≠ a.ticket) ++ [a.ticket])
    (hwaiting : q'.waiting = q.waiting.filter (·.ticket ≠ a.ticket) ++ [a])
    (hdeadline : a.deadline = q.now + q.pollTimeout) (hpoll : q'.pollTimeout = q.pollTimeout)
    (hjoins : a.ticket = q.tickets ∧ q'.tickets = q.tickets + 1 ∨
      (∃ b ∈ q.waiting, b.ticket = a.ticket ∧ b.deadline ≤ q.now) ∧ q'.tickets = q.tickets) :
    Line (log ++ [(a.ticket, q.now)]) q' := by
  -- Whoever joins again has waited out the timeout since each of its earlier entries.
  have hbefore : ∀ e ∈ log, e.1 = a.ticket → e.2 + q.pollTimeout ≤ q.now := by
    intro e he heq
    rcases hjoins with ⟨hnew, -⟩ | ⟨⟨b, hb, hsame, hdue⟩, -⟩
    · exact absurd (h.begun e he) (by omega)
    · exact Nat.le_trans (h.waited b hb e he (heq.trans hsame.symm)) hdue
  refine ⟨?_, ?_, ?_, ?_⟩
  · -- Its ticket goes to the end of the line and is the last entry of the log.
    rw [hline, List.map_append, List.map_singleton, dedup_concat]
    exact (h.inOrder.filter _).append_right _
  · -- Its ticket has been given out.
    simp only [List.mem_append, List.mem_singleton]
    rintro e (he | rfl)
    · have hless := h.begun e he
      omega
    · rcases hjoins with ⟨hnew, htickets⟩ | ⟨⟨b, hb, hsame, -⟩, htickets⟩
      · rw [hnew, htickets]
        exact Nat.lt_succ_self _
      · rw [← hsame, htickets]
        exact h.lt_tickets (mem_line hb)
  · -- Its new deadline is behind all its entries, and the others' deadlines stay.
    simp only [hwaiting, List.mem_append, List.mem_singleton, List.mem_filter, hpoll]
    rintro b (⟨hb, hne⟩ | rfl) e (he | rfl) heq
    · exact h.waited b hb e he heq
    · exact absurd heq.symm (of_decide_eq_true hne)
    · rw [hdeadline]
      exact Nat.le_trans (hbefore e he heq) (Nat.le_add_right _ _)
    · exact Nat.le_of_eq hdeadline.symm
  · rw [hpoll]
    -- The new entry is either of an attempt that began last, or of one that is in the log already.
    refine h.inTurn.concat ?_ hbefore
    rcases hjoins with ⟨hnew, -⟩ | ⟨⟨b, hb, hsame, -⟩, -⟩
    · exact .inl fun e he => Nat.lt_of_lt_of_eq (h.begun e he) hnew.symm
    · exact .inr (h.exists_mem_log (hsame ▸ mem_line hb))

/-- **The line is kept in order**: every action leaves those under way in the order in which they
went to the end of the line for the last time. -/
theorem turn (h : Line log q) (htickets : q.HasTickets) (hturn : Turn q action told q') :
    Line (log ++ q.lineUp action) q' := by
  rw [lineUp]
  obtain ⟨hnobody, hline, hwaiting⟩ | ⟨a, hsomebody, hdeadline, hline, hwaiting, hjoins⟩ :=
    hturn.line_cases htickets fun t ht => h.lt_tickets ht
  · rw [hnobody, Option.map_none, Option.toList_none, List.append_nil]
    exact h.shrink hline hwaiting hturn.tickets_le hturn.pollTimeout_eq
  · rw [hsomebody, Option.map_some, Option.toList_some]
    exact h.join hline hwaiting hdeadline hturn.pollTimeout_eq hjoins

/-- **The line is kept in order** in every run. -/
theorem run {capacity pollTimeout : Nat} {begun : List α} (h : Line log q)
    (hledger : Ledger capacity pollTimeout begun told q) (actions : List (QueueAction α)) :
    Line (log ++ q.lineUps actions) (q.run actions).2 := by
  induction actions generalizing log begun told q with
  | nil => simpa [lineUps] using h
  | cons action actions ih =>
    -- The ledger supplies the books that the step relies on, so both invariants go along the run.
    have hturn := Turn.of_step q action
    have hlater := ih (h.turn hledger.answers.hasTickets hturn) (hledger.turn hturn)
    rw [List.append_assoc] at hlater
    exact hlater

end Line

/-! ## Who is served -/

/-- The room that an item leaves is kept for the first in line. -/
theorem Turn.granted_of_handedOut (hturn : Turn q action told q') {item : α}
    (hhanded : .handedOut item ∈ told) : q'.granted = q.granted ++ q.waiting.take 1 := by
  cases hturn with
  | handOut => exact granted_grant _
  | _ => simp at hhanded

/-- **Nobody gets past the line**: while an attempt waits only those are accepted that stood before
it. -/
theorem Turn.accepted_before_waiting (hturn : Turn q action told q') (hplaces : q.Places) {y : Nat}
    {item : α} (haccepted : .accepted y item ∈ told) {x : Attempt α} (hx : x ∈ q'.waiting) :
    [y, x.ticket].Sublist q.line := by
  -- As long as somebody is in line there is no room for others.
  have hfull : q.isOpen = true → q.waiting ≠ [] → ¬ 0 < q.free := by
    intro hopen hline
    have htaken := hplaces.full (isOpen_iff.1 hopen).2 hline
    rw [free_eq]
    omega
  cases hturn with
  | accept _ hopen hfree => exact absurd hfree (hfull hopen (List.ne_nil_of_mem hx))
  | slipIn hwaiting hopen _ hfree =>
    exact absurd hfree (hfull hopen (List.ne_nil_of_mem hwaiting))
  | @redeem a hgranted =>
    obtain ⟨rfl, -⟩ : y = a.ticket ∧ item = a.item := by simpa using haccepted
    exact ((List.singleton_sublist.2 hgranted).append (List.singleton_sublist.2 hx)).map _
  | _ => simp at haccepted

/-- An attempt stood in line before one that began earlier, which has waited out a timeout since it
began and has lined up again. -/
theorem Line.overtaken (h : Line log q) {x y : Nat} (hbefore : [y, x].Sublist q.line)
    (hless : x < y) : ∃ t₁ t₂ t₃,
      [(x, t₁), (y, t₂), (x, t₃)].Sublist log ∧ t₁ + q.pollTimeout ≤ t₃ := by
  -- The line is in the order of last entries, so their last entries stand in this order, too.
  have hlog : [y, x].Sublist (log.map Prod.fst) :=
    (hbefore.trans h.inOrder).trans (List.dedup_sublist _)
  obtain ⟨entries, hentries, hmap⟩ := List.sublist_map_iff.1 hlog
  obtain ⟨⟨_, t₂⟩, rest, rfl, rfl, hrest⟩ := List.map_eq_cons_iff.1 hmap.symm
  obtain ⟨⟨_, t₃⟩, _, rfl, rfl, hnil⟩ := List.map_eq_cons_iff.1 hrest
  obtain rfl := List.map_eq_nil_iff.1 hnil
  -- The one that began later came first, so the log shows the other one's earlier entry as well.
  obtain ⟨⟨_, t₁⟩, htriple, rfl, htime⟩ := h.inTurn _ _ hentries hless
  exact ⟨t₁, t₂, t₃, htriple, htime⟩

/-- **Served in the order of the last lining up**: those under way stand in the order in which they
went to the end of the line for the last time, the room that an item leaves is kept for the first
in line, and whoever is accepted while another one waits stood before it. An attempt that began
later can do so only if the other one has waited out its timeout in the meantime. -/
theorem served_by_last_lining_up (capacity pollTimeout : Nat) (actions : List (QueueAction α))
    (action : QueueAction α) :
    let q := ((ofCapacity capacity pollTimeout).run actions).2
    let log := (ofCapacity capacity pollTimeout : SharedQueue α).lineUps actions
    q.line.Sublist (log.map Prod.fst).dedup ∧
      (∀ item, .handedOut item ∈ (q.step action).1 →
        (q.step action).2.granted = q.granted ++ q.waiting.take 1) ∧
      ∀ y item, .accepted y item ∈ (q.step action).1 → ∀ x ∈ (q.step action).2.waiting,
        [y, x.ticket].Sublist (log.map Prod.fst).dedup ∧
          (x.ticket < y → ∃ t₁ t₂ t₃,
            [(x.ticket, t₁), (y, t₂), (x.ticket, t₃)].Sublist log ∧ t₁ + pollTimeout ≤ t₃) := by
  intro q log
  have hstart := Ledger.ofCapacity (α := α) capacity pollTimeout
  have hledger := hstart.run actions
  have hline : Line log q := (Line.ofCapacity capacity pollTimeout).run hstart actions
  have hturn := Turn.of_step q action
  refine ⟨hline.inOrder, fun item => hturn.granted_of_handedOut, fun y item haccepted x hx => ?_⟩
  -- Whoever is accepted stood in front of all that still wait.
  have hbefore := hturn.accepted_before_waiting hledger.places haccepted hx
  refine ⟨hbefore.trans hline.inOrder, fun hless => ?_⟩
  rw [← hledger.pollTimeout_eq]
  exact hline.overtaken hbefore hless

/-- Two attempts wait, and the first one waits out its timeout before there is room. -/
def longWait : List (QueueAction Nat) :=
  [.enqueue 0, .enqueue 1, .elapse 1000, .enqueue 2, .elapse 2000, .resume 1, .elapse 500, .dequeue]

/-- The second one is accepted while the first one waits. -/
theorem longWait_served_by_last_lining_up :
    (((ofCapacity 1 3000).run longWait).2.step (.resume 2)).1 = [.accepted 2 2] ∧
      ∃ t₁ t₂ t₃, [(1, t₁), (2, t₂), (1, t₃)].Sublist ((ofCapacity 1 3000).lineUps longWait) ∧
        t₁ + 3000 ≤ t₃ := by
  obtain ⟨-, -, hserved⟩ := served_by_last_lining_up 1 3000 longWait (.resume 2)
  obtain ⟨-, hlater⟩ := hserved 2 2 (by decide) ⟨1, 1, 6000⟩ (by decide)
  exact ⟨by decide, hlater (by decide)⟩

/-- A producer that waited longer than another one is served after it, also when everybody goes on
as soon as possible. -/
theorem place_is_lost_at_timeout :
    let q : SharedQueue Nat :=
      (((((ofCapacity 1 3000).perform (.enqueue 0)).2.perform (.enqueue 1)).2.pass 1000).2.perform
        (.enqueue 2)).2
    let later := (q.pass 2500).2
    q.waiting.map (·.item) = [1, 2] ∧ later.waiting.map (·.item) = [2, 1] ∧
      (later.perform .dequeue).1 = [.handedOut 0, .accepted 2 2] ∧
      (later.perform .dequeue).2.waiting.map (·.item) = [1] := by
  decide

end ChangeFeed.SharedQueue

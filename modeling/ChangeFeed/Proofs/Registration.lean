import ChangeFeed.Proofs.Store
import ChangeFeed.Registration

/-!
# Registration of sessions: One name, told to be new

A new session is registered by two writes: its name, and the flag that it runs for the first time. A
registration whose second write is refused fails, but its name stays. The session keeps that name
from then on, and it is never told that it runs for the first time.

## Main results

* `registers_ensure`: what a registration answers, and what it leaves in the store.
* `registered_of_isNamed`: a session with a name is told its name, and that it is not new.
* `first_time_told_iff`: a session without a name gets one, and when it is told that it is new.
-/

namespace ChangeFeed.SessionRegistration

open LawfulStore (value)

variable {σ : Type} [Store σ] [LawfulStore σ] {s s' : σ} {name fresh : String}

/-! ## The name in a store -/

/-- The store has the name of a session. -/
def IsNamed (s : σ) (name : String) : Prop := value s nameKey = some (.string name)

/-- The store has no name of a session: nothing, or null. -/
def IsUnnamed (s : σ) : Prop := value s nameKey = none ∨ value s nameKey = some .null

/-- A session with a name is not without one. -/
theorem IsNamed.not_isUnnamed (h : IsNamed s name) : ¬ IsUnnamed s := by
  intro hunnamed
  rw [IsUnnamed, h] at hunnamed
  rcases hunnamed with hnone | hnull
  · cases hnone
  · cases hnull

/-- A missing text is a missing value or null. -/
theorem asText_eq_none_iff {key : String} {found : Option Json} :
    Store.asText key found = .ok none ↔ found = none ∨ found = some .null := by
  unfold Store.asText
  split <;> simp_all

/-- A text is found as it was put. -/
theorem asText_eq_some_iff {key : String} {found : Option Json} :
    Store.asText key found = .ok (some name) ↔ found = some (.string name) := by
  unfold Store.asText
  split <;> simp_all

/-! ## One registration -/

/-- What a registration answers and leaves in the store. -/
inductive Registers (s : σ) (fresh : String) : Result SessionRegistration → σ → Prop where
  /-- It fails and changes nothing. -/
  | refused {e : Error} {s' : σ} : (∀ k, value s' k = value s k) → Registers s fresh (.error e) s'
  /-- It fails between its two writes: the name was put, the flag was not. -/
  | interrupted {e : Error} {s' : σ} : IsUnnamed s → IsNamed s' fresh →
      value s' firstTimeKey = value s firstTimeKey → Registers s fresh (.error e) s'
  | minted {s' : σ} : IsUnnamed s → IsNamed s' fresh →
      value s' firstTimeKey = some (.bool true) → Registers s fresh (.ok ⟨fresh, true⟩) s'
  | recovered {name : String} {s' : σ} : IsNamed s name → IsNamed s' name →
      value s' firstTimeKey = some (.bool false) → Registers s fresh (.ok ⟨name, false⟩) s'

theorem firstTimeKey_ne_nameKey : firstTimeKey ≠ nameKey := by decide

variable {s₁ : σ}

/-- A session with a name is entered as not new. -/
theorem registers_recovery (hnamed : IsNamed s name) (hread : ∀ k, value s₁ k = value s k) :
    let recovery : Access σ SessionRegistration := do
      Store.put firstTimeKey (.bool false)
      return ⟨name, false⟩
    Registers s fresh (recovery.run s₁).1 (recovery.run s₁).2 := by
  intro recovery
  -- Either the mark is set to false, or the store refuses and is left as it was.
  obtain ⟨s₂, hwrite, hput⟩ | ⟨e, s₂, hwrite, hsame⟩ :=
    LawfulStore.put_cases s₁ firstTimeKey (.bool false)
  · rw [Access.run_bind_of_ok hwrite, Access.run_pure]
    apply Registers.recovered hnamed
    · rw [IsNamed, hput, if_neg firstTimeKey_ne_nameKey.symm, hread]
      exact hnamed
    · rw [hput, if_pos rfl]
  · rw [Access.run_bind_of_error hwrite]
    apply Registers.refused
    intro k
    rw [hsame, hread]

/-- A session without a name is given one, and is entered as new. -/
theorem registers_minting (hunnamed : IsUnnamed s) (hread : ∀ k, value s₁ k = value s k) :
    let minting : Access σ SessionRegistration := do
      Store.put nameKey (.string fresh)
      Store.put firstTimeKey (.bool true)
      return ⟨fresh, true⟩
    Registers s fresh (minting.run s₁).1 (minting.run s₁).2 := by
  intro minting
  obtain ⟨s₂, hwrite, hput⟩ | ⟨e, s₂, hwrite, hsame⟩ :=
    LawfulStore.put_cases s₁ nameKey (.string fresh)
  · rw [Access.run_bind_of_ok hwrite]
    -- The name is in the store now, whatever becomes of the flag.
    obtain ⟨s₃, hflag, hput'⟩ | ⟨e, s₃, hflag, hsame⟩ :=
      LawfulStore.put_cases s₂ firstTimeKey (.bool true)
    · rw [Access.run_bind_of_ok hflag, Access.run_pure]
      apply Registers.minted hunnamed
      · rw [IsNamed, hput', if_neg firstTimeKey_ne_nameKey.symm, hput, if_pos rfl]
      · rw [hput', if_pos rfl]
    · rw [Access.run_bind_of_error hflag]
      apply Registers.interrupted hunnamed
      · rw [IsNamed, hsame, hput, if_pos rfl]
      · rw [hsame, hput, if_neg firstTimeKey_ne_nameKey, hread]
  · rw [Access.run_bind_of_error hwrite]
    apply Registers.refused
    intro k
    rw [hsame, hread]

/-- **One registration**: these are all ways in which it can end. -/
theorem registers_ensure (s : σ) (fresh : String) :
    Registers s fresh ((ensure fresh).run s).1 ((ensure fresh).run s).2 := by
  -- The name is asked for first: the store may refuse, hold something that is no name, or hold one.
  obtain ⟨s₁, hread, hget | ⟨e, hget⟩⟩ := LawfulStore.get_cases s nameKey
  case inr =>
    rw [ensure, Access.run_bind_of_error (Store.getText_run_of_error hget)]
    exact .refused hread
  have htext := Store.getText_run hget
  cases hname : Store.asText nameKey (value s nameKey) with
  | error e =>
    rw [hname] at htext
    rw [ensure, Access.run_bind_of_error htext]
    exact .refused hread
  | ok found =>
    rw [hname] at htext
    rw [ensure, Access.run_bind_of_ok htext]
    cases found with
    | some name => exact registers_recovery (asText_eq_some_iff.1 hname) hread
    | none => exact registers_minting (asText_eq_none_iff.1 hname) hread

/-! ## Registrations one after the other -/

/-- Registrations of one session, each with the name that it would choose: what each answers, and
the store that it leaves. -/
def calls (s : σ) : List String → List (Result SessionRegistration × σ)
  | [] => []
  | fresh :: more => (ensure fresh).run s :: calls ((ensure fresh).run s).2 more

/-- What the registrations that did not fail told, in order. -/
def registered (s : σ) (names : List String) : List SessionRegistration :=
  (calls s names).filterMap fun call => call.1.toOption

/-- The registrations that failed before any other one. -/
def failedFirst (s : σ) (names : List String) : List (Result SessionRegistration × σ) :=
  (calls s names).takeWhile fun call => !call.1.isOk

section Calls

omit [LawfulStore σ]

variable {r : Result SessionRegistration} {e : Error} {more : List String}

theorem calls_cons (h : (ensure fresh).run s = (r, s')) :
    calls s (fresh :: more) = (r, s') :: calls s' more := by
  rw [calls, h]

theorem registered_cons_of_error (h : (ensure fresh).run s = (.error e, s')) :
    registered s (fresh :: more) = registered s' more := by
  simp [registered, calls_cons h, Except.toOption]

/-- A registration that succeeds is the first of those that are told. -/
theorem registered_cons_of_ok {told : SessionRegistration}
    (h : (ensure fresh).run s = (.ok told, s')) :
    registered s (fresh :: more) = told :: registered s' more := by
  simp [registered, calls_cons h, Except.toOption]

theorem failedFirst_cons_of_error (h : (ensure fresh).run s = (.error e, s')) :
    failedFirst s (fresh :: more) = (.error e, s') :: failedFirst s' more := by
  simp [failedFirst, calls_cons h, Except.isOk, Except.toBool]

theorem failedFirst_cons_of_ok {told : SessionRegistration}
    (h : (ensure fresh).run s = (.ok told, s')) : failedFirst s (fresh :: more) = [] := by
  simp [failedFirst, calls_cons h, Except.isOk, Except.toBool]

end Calls

/-- **In the store**: every registration that does not fail leaves what it tells. -/
theorem stored_of_mem_calls (names : List String) (s : σ) :
    ∀ call ∈ calls s names, ∀ told, call.1 = .ok told →
      IsNamed call.2 told.name ∧ value call.2 firstTimeKey = some (.bool told.firstTime) := by
  -- The induction is on the calls, as each one starts from the store that the one before it left.
  induction names generalizing s with
  | nil =>
    intro call hcall
    cases hcall
  | cons fresh more ih =>
    intro call hcall told htold
    rcases List.mem_cons.1 hcall with rfl | hlater
    · have hregisters := registers_ensure s fresh
      rw [htold] at hregisters
      cases hregisters with
      | minted _ hnamed hflag => exact ⟨hnamed, hflag⟩
      | recovered _ hnamed hflag => exact ⟨hnamed, hflag⟩
    · exact ih _ call hlater told htold

/-- **Recovery**: a session with a name is told its name each time, and that it is not new. -/
theorem registered_of_isNamed (names : List String) (h : IsNamed s name) :
    ∃ n, registered s names = List.replicate n ⟨name, false⟩ := by
  induction names generalizing s with
  | nil => exact ⟨0, rfl⟩
  | cons fresh more ih =>
    have hregisters := registers_ensure s fresh
    cases hrun : (ensure fresh).run s with
    | mk r s' =>
      rw [hrun] at hregisters
      cases hregisters with
      | refused hsame =>
        obtain ⟨n, hn⟩ := ih (s := s') ((hsame nameKey).trans h)
        exact ⟨n, by rw [registered_cons_of_error hrun, hn]⟩
      | interrupted hunnamed => exact absurd hunnamed h.not_isUnnamed
      | minted hunnamed => exact absurd hunnamed h.not_isUnnamed
      | recovered hnamed hnamed' =>
        -- The store has one name only.
        cases hnamed.symm.trans h
        obtain ⟨n, hn⟩ := ih hnamed'
        exact ⟨n + 1, by rw [registered_cons_of_ok hrun, hn, List.replicate_succ]⟩

/-- A session without a name: the first registration that does not fail tells that it is new unless
an earlier one left its name, and all later ones tell the same name and that it is not new. -/
theorem registered_of_isUnnamed (names : List String) (h : IsUnnamed s) :
    registered s names = [] ∨
      ∃ first n, registered s names = first :: List.replicate n ⟨first.name, false⟩ ∧
        (first.firstTime = true ↔ ∀ call ∈ failedFirst s names, IsUnnamed call.2) := by
  induction names generalizing s with
  | nil => exact .inl rfl
  | cons fresh more ih =>
    have hregisters := registers_ensure s fresh
    cases hrun : (ensure fresh).run s with
    | mk r s' =>
      rw [hrun] at hregisters
      cases hregisters with
      | refused hsame =>
        -- The store is as before, so all depends on the registrations to come.
        have hunnamed : IsUnnamed s' := by
          rw [IsUnnamed, hsame nameKey]
          exact h
        rw [registered_cons_of_error hrun, failedFirst_cons_of_error hrun, List.forall_mem_cons]
        simpa only [hunnamed, true_and] using ih hunnamed
      | interrupted _ hnamed =>
        rw [registered_cons_of_error hrun, failedFirst_cons_of_error hrun, List.forall_mem_cons]
        obtain ⟨n, hn⟩ := registered_of_isNamed more hnamed
        cases n with
        | zero => exact .inl hn
        | succ n =>
          refine .inr ⟨⟨fresh, false⟩, n, hn, ?_⟩
          simp [hnamed.not_isUnnamed]
      | minted _ hnamed =>
        obtain ⟨n, hn⟩ := registered_of_isNamed more hnamed
        refine .inr ⟨⟨fresh, true⟩, n, ?_, ?_⟩
        · rw [registered_cons_of_ok hrun, hn]
        · simp [failedFirst_cons_of_ok hrun]
      | recovered hnamed => exact absurd h hnamed.not_isUnnamed

/-- **Told once**: registrations of a session without a name, over any store. Whatever one tells is
in the store then. The first that does not fail chooses the name for all others, which tell that the
session is not new. The first one itself tells that the session is new exactly if none that failed
before it left its name in the store. -/
theorem first_time_told_iff (s : σ) (hs : IsUnnamed s) (names : List String) :
    (∀ call ∈ calls s names, ∀ told, call.1 = .ok told →
      IsNamed call.2 told.name ∧ value call.2 firstTimeKey = some (.bool told.firstTime)) ∧
    (registered s names = [] ∨
      ∃ first n, registered s names = first :: List.replicate n ⟨first.name, false⟩ ∧
        (first.firstTime = true ↔ ∀ call ∈ failedFirst s names, IsUnnamed call.2)) :=
  ⟨stored_of_mem_calls names s, registered_of_isUnnamed names hs⟩

/-- A store that refuses to read once, then two writes: the first of a name, and the one of the flag
of a session that has a name. -/
def reluctantStore : GuardedStore := ⟨.empty, [true], [true, false, false, true], 0⟩

/-- A session is told once that it is new, however often its registration fails before. -/
theorem reluctantStore_is_told_once :
    IsUnnamed reluctantStore ∧
      registered reluctantStore ["a", "b", "c", "d", "e"] = [⟨"c", true⟩, ⟨"c", false⟩] ∧
      ∀ call ∈ failedFirst reluctantStore ["a", "b", "c", "d", "e"], IsUnnamed call.2 := by
  have hunnamed : IsUnnamed reluctantStore := .inl rfl
  have hregistered : registered reluctantStore ["a", "b", "c", "d", "e"] =
      [⟨"c", true⟩, ⟨"c", false⟩] := rfl
  refine ⟨hunnamed, hregistered, ?_⟩
  -- Calls were registered, so there is a first one.
  obtain ⟨-, hnone | ⟨first, n, hfirst, hiff⟩⟩ :=
    first_time_told_iff reluctantStore hunnamed ["a", "b", "c", "d", "e"]
  · rw [hregistered] at hnone
    cases hnone
  · rw [hregistered] at hfirst
    apply hiff.1
    rw [← (List.cons.inj hfirst).1]

/-- A store that refuses the second write. -/
def interruptedStore : GuardedStore := ⟨.empty, [], [false, true], 0⟩

/-- **Never told**: the write of the flag is refused once, behind the one of the name. The store is
then as if the name had always been there, and no registration ever tells that the session is new.
-/
theorem interruptedStore_is_never_told :
    IsUnnamed interruptedStore ∧
      ((ensure "a").run interruptedStore).1.isOk = false ∧
      ((ensure "a").run interruptedStore).2.entries = .single nameKey (.string "a") ∧
      registered interruptedStore ["a", "b", "c"] = [⟨"a", false⟩, ⟨"a", false⟩] :=
  ⟨.inl rfl, rfl, rfl, rfl⟩

end ChangeFeed.SessionRegistration

import ChangeFeed.Proofs.SortedMap
import ChangeFeed.Store.Memory

/-!
# Stores: Operations one after the other

How operations on a store are run: a failure ends what follows it, but keeps the store as it is by
then. Most stores keep what is put into them, which `LawfulStore` says without a look into them.
-/

namespace ChangeFeed

namespace Access

variable {σ α β : Type}

@[simp] theorem run_ofExcept (r : Result α) (s : σ) :
    (MonadExcept.ofExcept r : Access σ α).run s = (r, s) := by
  cases r <;> rfl

@[simp] theorem run_pure (a : α) (s : σ) : (pure a : Access σ α).run s = (.ok a, s) := rfl

theorem run_bind (x : Access σ α) (f : α → Access σ β) (s : σ) :
    (x >>= f).run s =
      match x.run s with
      | (.ok a, s) => (f a).run s
      | (.error e, s) => (.error e, s) := by
  -- A failing access does not get to the rest.
  have hbind : (x >>= f).run s =
      match x.run s with
      | (a, s) => (ExceptT.bindCont f a) s := rfl
  rw [hbind]
  cases x.run s with
  | mk a s' => cases a <;> rfl

theorem run_bind_of_ok {x : Access σ α} {s s' : σ} {a : α} (h : x.run s = (.ok a, s'))
    (f : α → Access σ β) : (x >>= f).run s = (f a).run s' := by
  rw [run_bind, h]

theorem run_bind_of_error {x : Access σ α} {s s' : σ} {e : Error} (h : x.run s = (.error e, s'))
    (f : α → Access σ β) : (x >>= f).run s = (.error e, s') := by
  rw [run_bind, h]

end Access

/-! ## Texts in a store -/

theorem Store.getText_run {σ : Type} [Store σ] {key : String} {s s' : σ} {found : Option Json}
    (h : (Store.get key).run s = (.ok found, s')) :
    (Store.getText key).run s = (Store.asText key found, s') := by
  rw [Store.getText, Access.run_bind_of_ok h, Access.run_ofExcept]

theorem Store.getText_run_of_error {σ : Type} [Store σ] {key : String} {s s' : σ} {e : Error}
    (h : (Store.get key).run s = (.error e, s')) :
    (Store.getText key).run s = (.error e, s') := by
  rw [Store.getText, Access.run_bind_of_error h]

/-! ## Stores that keep what is put -/

/-- A store whose state tells what is under every key. -/
class LawfulStore (σ : Type) [Store σ] where
  value : σ → String → Option Json
  /-- To read changes no value. -/
  value_get (s : σ) (key other : String) :
    value ((Store.get key : Access σ (Option Json)).run s).2 other = value s other
  /-- A read that does not fail finds the value. -/
  get_eq {s : σ} {key : String} {found : Option Json} :
    ((Store.get key : Access σ (Option Json)).run s).1 = .ok found → found = value s key
  /-- A write puts its value in place of the old one, or changes no value when it fails. -/
  value_put (s : σ) (key : String) (v : Json) (other : String) :
    value ((Store.put key v : Access σ Unit).run s).2 other =
      if other = key ∧ ((Store.put key v : Access σ Unit).run s).1.isOk = true then some v
      else value s other

instance : LawfulStore MemoryStore where
  value s := s.entries.get?
  value_get _ _ _ := rfl
  get_eq h := (Except.ok.inj h).symm
  value_put s key v other := by
    show (s.entries.insert key v).get? other = if other = key ∧ true = true then _ else _
    rw [SortedMap.get?_insert]
    simp only [and_true]

instance : LawfulStore GuardedStore where
  value s := s.entries.get?
  value_get _ _ _ := rfl
  get_eq {s key found} h := by
    have hread : (s.read key).1 = .ok found := h
    unfold GuardedStore.read at hread
    split at hread
    · cases hread
    · exact (Except.ok.inj hread).symm
  value_put s key v other := by
    show (s.write key v).2.entries.get? other =
      if other = key ∧ (s.write key v).1.isOk = true then _ else _
    unfold GuardedStore.write GuardedStore.settle
    -- A store that refuses keeps its entries, and another one takes the new one in.
    split
    next => simp [Except.isOk, Except.toBool, GuardedStore.announce]
    next =>
      show ((s.entries.insert key v).get? other) = if other = key ∧ true = true then _ else _
      rw [SortedMap.get?_insert]
      simp only [and_true]

namespace LawfulStore

variable {σ : Type} [Store σ] [LawfulStore σ]

/-- A read finds the value or fails, and changes nothing. -/
theorem get_cases (s : σ) (key : String) :
    ∃ s', (∀ k, value s' k = value s k) ∧
      ((Store.get key : Access σ (Option Json)).run s = (.ok (value s key), s') ∨
        ∃ e, (Store.get key : Access σ (Option Json)).run s = (.error e, s')) := by
  refine ⟨((Store.get key : Access σ (Option Json)).run s).2, value_get s key, ?_⟩
  have hfound : ∀ found, ((Store.get key : Access σ (Option Json)).run s).1 = .ok found →
      found = value s key := fun _ => get_eq
  -- The answer is the value, or there is no answer.
  cases hget : (Store.get key : Access σ (Option Json)).run s with
  | mk r s' =>
    rw [hget] at hfound
    cases r with
    | error e => exact .inr ⟨e, rfl⟩
    | ok found =>
      rw [hfound found rfl]
      exact .inl rfl

/-- A write puts the value in its place, or fails and changes nothing. -/
theorem put_cases (s : σ) (key : String) (v : Json) :
    (∃ s', (Store.put key v : Access σ Unit).run s = (.ok (), s') ∧
        ∀ k, value s' k = if k = key then some v else value s k) ∨
      ∃ e s', (Store.put key v : Access σ Unit).run s = (.error e, s') ∧
        ∀ k, value s' k = value s k := by
  have hput := value_put s key v
  -- A put changes the value of its key, or it changes nothing.
  cases hrun : (Store.put key v : Access σ Unit).run s with
  | mk r s' =>
    rw [hrun] at hput
    cases r with
    | error e => exact .inr ⟨e, s', rfl, by simpa [Except.isOk, Except.toBool] using hput⟩
    | ok _ => exact .inl ⟨s', rfl, by simpa [Except.isOk, Except.toBool] using hput⟩

end LawfulStore

end ChangeFeed

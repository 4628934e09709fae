import ChangeFeed.SortedMap
import Mathlib.Data.List.Sort

/-!
# Maps with text keys: Lookup

What a map answers after it was changed, that its answers are all there is to it, and how inserting
keys in increasing order builds the list of entries from left to right.
-/

namespace ChangeFeed.SortedMap

variable {α β : Type}

/-! ## Lookup after an insertion -/

/-- The first entry with the key is the one that is found. -/
theorem lookup_entry (k : String) (e : String × α) (es : List (String × α)) :
    (e :: es).lookup k = if k = e.1 then some e.2 else es.lookup k := by
  obtain ⟨key, value⟩ := e
  by_cases h : k = key
  · subst h; simp
  · have hb : (k == key) = false := by simpa using h
    simp [List.lookup_cons, hb, h]

/-- An inserted entry hides none but the one with its key. -/
theorem lookup_insertEntry (key k : String) (value : α) (es : List (String × α)) :
    (insertEntry key value es).lookup k = if k = key then some value else es.lookup k := by
  induction es with
  | nil => simp [insertEntry, lookup_entry]
  | cons e es ih =>
    simp only [insertEntry]
    split
    · simp only [lookup_entry]
    · split
      next hlt =>
        -- The new entry lies further back, and it cannot hide this one.
        have hne : key ≠ e.1 := fun he => String.lt_irrefl _ (he ▸ hlt)
        rw [lookup_entry, ih, lookup_entry]
        by_cases h : k = key
        · simp [h, hne]
        · simp [h]
      next hnlt hngt =>
        -- Neither above nor below: the entry is replaced.
        have heq : key = e.1 := String.le_antisymm hngt hnlt
        rw [lookup_entry, lookup_entry, ← heq]
        by_cases h : k = key <;> simp [h]

theorem get?_insert (m : SortedMap α) (key k : String) (value : α) :
    (m.insert key value).get? k = if k = key then some value else m.get? k :=
  lookup_insertEntry key k value m.entries

@[simp] theorem get?_insert_self (m : SortedMap α) (key : String) (value : α) :
    (m.insert key value).get? key = some value := by
  simp [get?_insert]

@[simp] theorem get?_empty (k : String) : (empty : SortedMap α).get? k = none := rfl

/-! ## Lookup after an erasure -/

/-- An entry that is erased is not found any more. -/
theorem get?_erase (m : SortedMap α) (key k : String) :
    (m.erase key).get? k = if k = key then none else m.get? k := by
  have hlookup : ∀ es : List (String × α), (es.filter fun e => e.1 ≠ key).lookup k =
      if k = key then none else es.lookup k := by
    intro es
    induction es with
    | nil => simp
    | cons e es ih =>
      -- Entries with the key go, all the others stay where they are.
      by_cases hkey : e.1 = key
      · rw [List.filter_cons_of_neg (by simpa using hkey), ih, lookup_entry, hkey]
        by_cases h : k = key <;> simp [h]
      · rw [List.filter_cons_of_pos (by simpa using hkey), lookup_entry, lookup_entry, ih]
        by_cases h : k = e.1
        · simp [h, hkey]
        · simp [h]
  exact hlookup m.entries

/-- A key that is not there cannot be erased. -/
theorem erase_of_get?_eq_none {m : SortedMap α} {key : String} (h : m.get? key = none) :
    m.erase key = m := by
  refine ext (List.filter_eq_self.2 fun e he => ?_)
  have hne : key ≠ e.1 := by simpa using List.lookup_eq_none_iff.1 h e he
  simpa using hne.symm

/-! ## Entries -/

/-- A key before all others is not there. -/
theorem lookup_of_lt {es : List (String × α)} {key : String} (h : ∀ e ∈ es, key < e.1) :
    es.lookup key = none :=
  List.lookup_eq_none_iff.2 fun e he => by
    simpa using fun heq : key = e.1 => String.lt_irrefl _ (heq ▸ h e he)

/-- In sorted entries a key is found where it stands. -/
theorem lookup_eq_some_iff {es : List (String × α)} (h : es.Pairwise fun a b => a.1 < b.1)
    {k : String} {a : α} : es.lookup k = some a ↔ (k, a) ∈ es := by
  induction es with
  | nil => simp
  | cons e es ih =>
    rw [List.pairwise_cons] at h
    rw [lookup_entry, List.mem_cons, ← ih h.2]
    split
    next heq =>
      subst heq
      -- Behind an entry there is none with its key.
      simp [lookup_of_lt h.1, Prod.ext_iff, eq_comm]
    next hne => simp [Prod.ext_iff, hne]

theorem mem_entries_iff {m : SortedMap α} {k : String} {a : α} :
    (k, a) ∈ m.entries ↔ m.get? k = some a :=
  (lookup_eq_some_iff m.sorted).symm

/-- **Extensionality**: maps that answer alike are equal. -/
theorem ext_get? {m n : SortedMap α} (h : ∀ k, m.get? k = n.get? k) : m = n := by
  have hnodup : ∀ m : SortedMap α, m.entries.Nodup := by
    intro m
    refine m.sorted.imp fun {a b} hlt => ?_
    -- No key stands twice, so entries can be compared as a set.
    rintro rfl
    exact String.lt_irrefl _ hlt
  have hperm : m.entries.Perm n.entries := by
    rw [List.perm_ext_iff_of_nodup (hnodup m) (hnodup n)]
    rintro ⟨k, a⟩
    rw [mem_entries_iff, mem_entries_iff, h]
  refine ext (hperm.eq_of_pairwise (fun a b _ _ hab hba => ?_) m.sorted n.sorted)
  exact absurd (String.lt_trans hab hba) (String.lt_irrefl _)

/-! ## Parts and overlays -/

/-- A filtered map answers with what passes the filter. -/
theorem get?_filter (p : String → α → Bool) (m : SortedMap α) (k : String) :
    (m.filter p).get? k = (m.get? k).filter (p k) := by
  refine Option.ext fun a => ?_
  rw [← mem_entries_iff, Option.filter_eq_some_iff, ← mem_entries_iff]
  exact List.mem_filter

/-- Entries that are inserted one by one come before those of the map. -/
theorem get?_foldl_insert (es : List (String × α)) (m : SortedMap α)
    (h : es.Pairwise fun a b => a.1 < b.1) (k : String) :
    (es.foldl (fun m e => m.insert e.1 e.2) m).get? k = (es.lookup k).or (m.get? k) := by
  -- The entries are sorted, so the first one is not overwritten by those behind it.
  induction es generalizing m with
  | nil => rfl
  | cons e es ih =>
    rw [List.pairwise_cons] at h
    rw [List.foldl_cons, ih _ h.2, lookup_entry, get?_insert]
    split
    next heq =>
      rw [heq, lookup_of_lt h.1]
      rfl
    next => rfl

theorem get?_overlay (m n : SortedMap α) (k : String) :
    (m.overlay n).get? k = (n.get? k).or (m.get? k) :=
  get?_foldl_insert n.entries m n.sorted k

/-! ## Building a map in order -/

/-- A key behind all others goes to the end. -/
theorem insertEntry_last {key : String} {es : List (String × α)} (h : ∀ e ∈ es, e.1 < key)
    (value : α) : insertEntry key value es = es ++ [(key, value)] := by
  induction es with
  | nil => rfl
  | cons e es ih =>
    rw [List.forall_mem_cons] at h
    have hnot : ¬ key < e.1 := fun hlt => String.lt_irrefl _ (String.lt_trans hlt h.1)
    rw [insertEntry, if_neg hnot, if_pos h.1, ih h.2, List.cons_append]

theorem entries_insert_last {m : SortedMap α} {key : String} (h : ∀ e ∈ m.entries, e.1 < key)
    (value : α) : (m.insert key value).entries = m.entries ++ [(key, value)] :=
  insertEntry_last h value

/-- As long as keys come in order, each goes to the end of the map. -/
theorem entries_insert_append {m : SortedMap α} {key : String} {value : α}
    {es : List (String × α)}
    (h : (m.entries ++ (key, value) :: es).Pairwise fun a b => a.1 < b.1) :
    (m.insert key value).entries ++ es = m.entries ++ (key, value) :: es := by
  have hlast : ∀ d ∈ m.entries, d.1 < key := fun d hd =>
    (List.pairwise_append.1 h).2.2 d hd (key, value) List.mem_cons_self
  rw [entries_insert_last hlast, List.append_assoc, List.singleton_append]

/-- A map is built again from its entries. -/
theorem ofList_entries (m : SortedMap α) : ofList m.entries = m := by
  -- The induction needs a map in front, to which the entries are added at the end.
  have hfold : ∀ (es : List (String × α)) (n : SortedMap α),
      ((n.entries ++ es).Pairwise fun a b => a.1 < b.1) →
        (es.foldl (fun m e => m.insert e.1 e.2) n).entries = n.entries ++ es := by
    intro es
    induction es with
    | nil => exact fun n _ => (List.append_nil _).symm
    | cons e es ih =>
      intro n hsorted
      have hentries := entries_insert_append hsorted
      exact (ih (n.insert e.1 e.2) (hentries ▸ hsorted)).trans hentries
  exact ext (hfold m.entries .empty m.sorted)

/-! ## Replacing values -/

theorem mapValues_self (m : SortedMap α) : (m.mapValues fun _ a => a) = m :=
  ext (List.map_id _)

@[simp] theorem keys_mapValues (f : String → α → β) (m : SortedMap α) :
    (m.mapValues f).keys = m.keys := by
  simp [mapValues, keys]

/-- A map whose values are replaced answers with the new values. -/
theorem get?_mapValues (f : String → α → β) (m : SortedMap α) (k : String) :
    (m.mapValues f).get? k = (m.get? k).map (f k) := by
  have hlookup : ∀ es : List (String × α),
      (es.map fun e => (e.1, f e.1 e.2)).lookup k = (es.lookup k).map (f k) := by
    intro es
    induction es with
    | nil => rfl
    | cons e es ih =>
      rw [List.map_cons, lookup_entry, lookup_entry, ih]
      -- The function sees the key of the entry, which is the one that is looked for.
      by_cases h : k = e.1
      · simp [h]
      · simp [h]
  exact hlookup m.entries

/-- Replacing values and inserting one can be done in any order. -/
theorem mapValues_insert (f : String → α → β) (m : SortedMap α) (key : String) (value : α) :
    (m.insert key value).mapValues f = (m.mapValues f).insert key (f key value) := by
  refine ext_get? fun k => ?_
  rw [get?_mapValues, get?_insert, get?_insert, get?_mapValues]
  by_cases h : k = key
  · simp [h]
  · simp [h]

/-- The values can as well be replaced before the map is built. -/
theorem mapValues_ofList (f : String → α → β) (es : List (String × α)) :
    (ofList es).mapValues f = ofList (es.map fun e => (e.1, f e.1 e.2)) := by
  have hfold : ∀ m : SortedMap α, (es.foldl (fun m e => m.insert e.1 e.2) m).mapValues f =
      (es.map fun e => (e.1, f e.1 e.2)).foldl (fun m e => m.insert e.1 e.2) (m.mapValues f) := by
    induction es with
    | nil => exact fun m => rfl
    | cons e es ih =>
      intro m
      rw [List.foldl_cons, ih, mapValues_insert, List.map_cons, List.foldl_cons]
  exact hfold .empty

end ChangeFeed.SortedMap

import ChangeFeed.Proofs.History.Restored

/-!
# The schema history: Growth

A history only grows, and always at the end of its lists. What is recorded and what is merged goes
behind the statements that are there, each statement once, in the order in which it comes. A merge
can be told from its snapshot alone: of every list it adds what is new, and it counts what it adds.

## Main results

* `get?_mergeTables`, `total_mergeTables`: every table after a merge, and how many statements came.
* `growsTo_run`: what a table has stays the beginning of what it has later.
* `history_grows_by_merging`: a history in every state that it can be in, and what a load makes of
  it.
-/

namespace ChangeFeed

namespace StatementLists

variable {s s' s'' : StatementLists}

/-! ## Every table after a merge -/

/-- After a merge a table has its own statements and behind them the new ones of the store. -/
theorem get?_mergeTables (s : StatementLists) {stored : List (String × List String)}
    (hsorted : stored.Pairwise fun a b => a.1 < b.1) (table : String) :
    (s.mergeTables stored).1.get? table =
      match stored.lookup table with
      | some list => some (s.statements table ++ additions (s.statements table) list)
      | none => s.get? table := by
  -- The induction is on the stored tables: each is merged once, as they are in order.
  induction stored generalizing s with
  | nil => rfl
  | cons e stored ih =>
    obtain ⟨first, list⟩ := e
    rw [List.pairwise_cons] at hsorted
    rw [mergeTables, appendNew_eq_additions]
    refine (ih _ hsorted.2).trans ?_
    rw [SortedMap.lookup_entry, statements_insert, SortedMap.get?_insert]
    by_cases hfirst : table = first
    · -- Tables come in order, so the first one does not come again.
      subst hfirst
      simp [SortedMap.lookup_of_lt hsorted.1]
    · simp [hfirst]

/-- A list that is put in the place of another one counts instead of it. -/
theorem length_insertEntry {es : List (String × List String)}
    (h : es.Pairwise fun a b => a.1 < b.1) (table : String) (list : List String) :
    ((SortedMap.insertEntry table list es).flatMap Prod.snd).length +
        ((es.lookup table).getD []).length =
      (es.flatMap Prod.snd).length + list.length := by
  induction es with
  | nil => simp [SortedMap.insertEntry]
  | cons e es ih =>
    rw [List.pairwise_cons] at h
    have ih := ih h.2
    rw [SortedMap.insertEntry, SortedMap.lookup_entry]
    split
    next hlt =>
      -- The table is before all that are there.
      have hne : table ≠ e.1 := fun heq => String.lt_irrefl _ (heq ▸ hlt)
      have hnone : es.lookup table = none :=
        SortedMap.lookup_of_lt fun d hd => String.lt_trans hlt (h.1 d hd)
      simp [hne, hnone, Nat.add_comm]
    next hnlt =>
      split
      next hgt =>
        have hne : table ≠ e.1 := fun heq => String.lt_irrefl _ (heq ▸ hgt)
        simp only [hne, if_false, List.flatMap_cons, List.length_append]
        omega
      next hngt =>
        have heq : table = e.1 := String.le_antisymm hngt hnlt
        simp only [heq, if_true, Option.getD_some, List.flatMap_cons, List.length_append]
        omega

theorem total_insert (s : StatementLists) (table : String) (list : List String) :
    total (s.insert table list) + (s.statements table).length = s.total + list.length :=
  length_insertEntry s.sorted table list

/-- A merge counts the statements that it adds. -/
theorem total_mergeTables (s : StatementLists) (stored : List (String × List String)) :
    total (s.mergeTables stored).1 = s.total + (s.mergeTables stored).2 := by
  -- Each table adds what it is given, and the numbers add up.
  induction stored generalizing s with
  | nil => rfl
  | cons e stored ih =>
    rw [mergeTables, appendNew_eq_additions]
    have hinsert := s.total_insert e.1 (s.statements e.1 ++ additions (s.statements e.1) e.2)
    have hrest := ih (s.insert e.1 (s.statements e.1 ++ additions (s.statements e.1) e.2))
    rw [List.length_append] at hinsert
    simp only
    omega

/-! ## Growth -/

/-- Every table is still there, and what it had is the beginning of what it has. -/
def GrowsTo (s s' : StatementLists) : Prop :=
  ∀ table list, s.get? table = some list → ∃ list', s'.get? table = some list' ∧ list <+: list'

namespace GrowsTo

theorem refl (s : StatementLists) : s.GrowsTo s := fun _ list h => ⟨list, h, List.prefix_rfl⟩

/-- A list grows in two steps as it does in one. -/
theorem trans (h : s.GrowsTo s') (h' : s'.GrowsTo s'') : s.GrowsTo s'' := by
  intro table list hlist
  obtain ⟨list', hlist', hbefore⟩ := h table list hlist
  obtain ⟨list'', hlist'', hbefore'⟩ := h' table list' hlist'
  exact ⟨list'', hlist'', hbefore.trans hbefore'⟩

/-- A table may be given a longer list. -/
theorem insert {table : String} {list : List String} (h : s.statements table <+: list) :
    s.GrowsTo (s.insert table list) := by
  -- Other tables keep their lists.
  intro other old hold
  rw [SortedMap.get?_insert]
  split
  next heq =>
    refine ⟨list, rfl, ?_⟩
    rwa [← heq, statements, hold] at h
  next => exact ⟨old, hold, List.prefix_rfl⟩

/-- A merge only makes lists longer. -/
theorem mergeTables (s : StatementLists) (stored : List (String × List String)) :
    s.GrowsTo (s.mergeTables stored).1 := by
  induction stored generalizing s with
  | nil => exact refl s
  | cons e stored ih =>
    rw [StatementLists.mergeTables, appendNew_eq_additions]
    exact (insert (List.prefix_append _ _)).trans (ih _)

end GrowsTo

/-! ## Snapshots that are known -/

/-- Every table of the snapshot is there, with all its statements. -/
def Knows (s stored : StatementLists) : Prop :=
  ∀ table list, stored.get? table = some list → ∃ list', s.get? table = some list' ∧ list ⊆ list'

/-- What is known stays known, as lists only grow. -/
theorem Knows.mono {stored : StatementLists} (h : s.Knows stored) (hgrows : s.GrowsTo s') :
    s'.Knows stored := by
  intro table list hlist
  obtain ⟨list', hlist', hall⟩ := h table list hlist
  obtain ⟨list'', hlist'', hbefore⟩ := hgrows table list' hlist'
  exact ⟨list'', hlist'', fun _ hmem => hbefore.subset (hall hmem)⟩

/-- After a merge the snapshot is known. -/
theorem knows_mergeTables (s stored : StatementLists) :
    (s.mergeTables stored.entries).1.Knows stored := by
  intro table list hlist
  rw [get?_mergeTables s stored.sorted, show stored.entries.lookup table = some list from hlist]
  refine ⟨_, rfl, fun statement hmem => ?_⟩
  -- A statement of the list was known, or is among those that were added.
  by_cases hknown : statement ∈ s.statements table
  · exact List.mem_append_left _ hknown
  · exact List.mem_append_right _ (mem_additions.2 ⟨hmem, hknown⟩)

/-- A snapshot that is known has nothing to add. -/
theorem mergeTables_of_knows {stored : StatementLists} (h : s.Knows stored) :
    s.mergeTables stored.entries = (s, 0) := by
  have htables : (s.mergeTables stored.entries).1 = s := by
    refine SortedMap.ext_get? fun table => ?_
    rw [get?_mergeTables s stored.sorted]
    cases hfound : stored.entries.lookup table with
    | none => rfl
    | some list =>
      obtain ⟨list', hlist', hall⟩ := h table list hfound
      have hstatements : s.statements table = list' := by rw [statements, hlist']; rfl
      simp only [hstatements, additions_of_subset hall, List.append_nil, hlist']
  refine Prod.ext htables ?_
  -- The tables are the same, so no statement was counted.
  have htotal := s.total_mergeTables stored.entries
  rw [htables] at htotal
  simp only
  omega

end StatementLists

/-! ## Histories -/

namespace SchemaHistory

/-- No generation counts as saved, or is being put, that the history has not reached. -/
structure HasReached (c : SchemaHistory) : Prop where
  saved_le : c.saved ≤ c.generation
  capture_le : ∀ capture, c.writing = some capture → capture.generation ≤ c.generation

namespace HasReached

variable {c : SchemaHistory}

theorem empty : HasReached .empty := ⟨Nat.le_refl 0, nofun⟩

/-- A change leads to a generation beyond all that were saved or are being put. -/
theorem grow (h : c.HasReached) (tables : StatementLists) :
    HasReached { c with tables, generation := c.generation + 1 } :=
  ⟨Nat.le_succ_of_le h.saved_le, fun capture hc => Nat.le_succ_of_le (h.capture_le capture hc)⟩

/-- A merge counts its own generation as saved, or leaves that as it was. -/
theorem merge (h : c.HasReached) (stored : StatementLists) : (c.merge stored).2.HasReached := by
  have hgrown := h.grow (c.tables.mergeTables stored.entries).1
  refine ⟨?_, hgrown.capture_le⟩
  simp only [SchemaHistory.merge]
  split
  · exact Nat.le_refl _
  · exact hgrown.saved_le

/-- A put that begins takes along the generation that the history has reached. -/
theorem beginWrite (h : c.HasReached) : c.beginWrite.2.HasReached := by
  obtain ⟨-, hbegin⟩ | ⟨-, -, hbegin⟩ | ⟨-, -, hbegin⟩ := c.beginWrite_cases
  · rw [hbegin]
    exact h
  · rw [hbegin]
    exact h
  · rw [hbegin]
    refine ⟨h.saved_le, ?_⟩
    rintro capture ⟨⟩
    exact Nat.le_refl _

/-- A put that ends saves what it took along, or nothing. -/
theorem endWrite (h : c.HasReached) (succeeded : Bool) : (c.endWrite succeeded).HasReached := by
  -- The captured generation is one that was reached, so it can become the saved one.
  cases hwriting : c.writing with
  | none =>
    rw [SchemaHistory.endWrite, hwriting]
    exact h
  | some capture =>
    rw [endWrite_of_writing hwriting]
    constructor
    · simp only
      split
      · exact h.capture_le capture hwriting
      · exact h.saved_le
    · rintro next ⟨⟩

/-- A merge leaves the history clean exactly if it has become the snapshot. -/
theorem isDirty_merge (h : c.HasReached) (stored : StatementLists) :
    (c.merge stored).2.isDirty = false ↔ (c.merge stored).2.tables = stored := by
  rw [isDirty_eq_false_iff]
  have hle := h.saved_le
  simp only [SchemaHistory.merge]
  split
  next hequal => simp [hequal]
  next hdiffers =>
    -- The generation has grown, and what was saved before is behind it.
    simp only [hdiffers, iff_false]
    omega

end HasReached

/-! ## Merges -/

/-- What a history has become by merging a snapshot. -/
structure HasMerged (c : SchemaHistory) (stored : StatementLists) (added : Nat)
    (merged : SchemaHistory) : Prop where
  /-- The own statements come first, and what is new follows in its order, each once. -/
  stored_tables : ∀ table list, stored.get? table = some list →
    merged.tables.get? table =
      some (c.statements table ++ StatementLists.additions (c.statements table) list)
  other_tables : ∀ table, stored.get? table = none →
    merged.tables.get? table = c.tables.get? table
  knows : merged.tables.Knows stored
  counted : merged.tables.total = c.tables.total + added
  clean_iff : merged.isDirty = false ↔ merged.tables = stored

/-- A merge adds what is missing, counts it, and leaves the history clean where nothing was in
addition to the snapshot. -/
theorem hasMerged_merge {c : SchemaHistory} (h : c.HasReached) (stored : StatementLists) :
    c.HasMerged stored (c.merge stored).1 (c.merge stored).2 := by
  -- What the merge found for a table is looked up in the stored lists, which are sorted like the
  -- own ones.
  constructor
  · intro table list hlist
    have hget := c.tables.get?_mergeTables stored.sorted table
    rwa [show stored.entries.lookup table = some list from hlist] at hget
  · intro table hnone
    have hget := c.tables.get?_mergeTables stored.sorted table
    rwa [show stored.entries.lookup table = none from hnone] at hget
  · exact c.tables.knows_mergeTables stored
  · exact c.tables.total_mergeTables stored.entries
  · exact h.isDirty_merge stored

/-- A snapshot that is known is merged without any change to the tables. -/
theorem merge_of_knows {c : SchemaHistory} {stored : StatementLists} (h : c.tables.Knows stored) :
    ∃ merged, c.merge stored = (0, merged) ∧ merged.tables = c.tables := by
  rw [merge, StatementLists.mergeTables_of_knows h]
  exact ⟨_, rfl, rfl⟩

end SchemaHistory

namespace SharedHistory

open StatementLists (GrowsTo)

/-- A move of the history only makes lists longer, as only records and merges touch them. -/
theorem CacheMove.growsTo {c c' : SchemaHistory} (m : CacheMove c c') :
    c.tables.GrowsTo c'.tables := by
  -- Only what is recorded or merged touches the tables, and both put statements behind those there.
  cases m with
  | keep => exact .refl _
  | record _ => exact .insert (List.prefix_append _ _)
  | merge stored => exact .mergeTables _ _
  | beginWrite =>
    rw [SchemaHistory.tables_beginWrite]
    exact .refl _
  | endWrite succeeded =>
    rw [SchemaHistory.tables_endWrite]
    exact .refl _

/-- **Growth**: whatever happens, a table keeps its list as the beginning of its later ones. -/
theorem growsTo_run (h : SharedHistory) (events : List HistoryEvent) :
    h.cache.tables.GrowsTo (h.run events).2.cache.tables :=
  cache_run_induction (P := fun c => h.cache.tables.GrowsTo c.tables)
    (fun _ _ m hgrown => hgrown.trans m.growsTo) (.refl _) events

/-- No move gets ahead of the generation that the history has reached. -/
theorem CacheMove.hasReached {c c' : SchemaHistory} (m : CacheMove c c') (h : c.HasReached) :
    c'.HasReached := by
  cases m with
  | keep => exact h
  | record _ => exact h.grow _
  | merge stored => exact h.merge stored
  | beginWrite => exact h.beginWrite
  | endWrite succeeded => exact h.endWrite succeeded

/-- This holds along every run that starts with an empty history. -/
theorem hasReached_run (events : List HistoryEvent) : (empty.run events).2.cache.HasReached :=
  cache_run_induction (fun _ _ m h => m.hasReached h) .empty events

/-! ## Loads -/

section

variable {σ : Type} [Store σ]

/-- What a load from a store makes of a history. -/
structure LoadsFrom (h : SharedHistory) (s : σ) : Prop where
  /-- A load that fails leaves the history alone, whether the store cannot be read or holds
  something else. -/
  failed : ∀ e, (SchemaHistory.fetch.run s).1 = .error e →
    (h.cache.load.run s).1 = .error e ∧ (h.step (.load (.error e))).2 = h
  absent : (SchemaHistory.fetch.run s).1 = .ok none →
    (h.cache.load.run s).1 = .ok (0, h.cache) ∧ (h.step (.load (.ok none))).2 = h
  found : ∀ stored, (SchemaHistory.fetch.run s).1 = .ok (some stored) →
    ∃ added merged, (h.cache.load.run s).1 = .ok (added, merged) ∧
      (h.step (.load (.ok (some stored)))).2.cache = merged ∧
      h.cache.HasMerged stored added merged
  /-- However the history goes on from there, the same snapshot adds nothing any more. -/
  again : ∀ stored, (SchemaHistory.fetch.run s).1 = .ok (some stored) → ∀ events,
    let later := ((h.step (.load (.ok (some stored)))).2.run events).2.cache
    ∃ merged, (later.load.run s).1 = .ok (0, merged) ∧ merged.tables = later.tables

theorem loadsFrom {h : SharedHistory} (hh : h.cache.HasReached) (s : σ) : h.LoadsFrom s where
  failed e hfetch := by
    rw [SchemaHistory.load_run_eq, hfetch]
    exact ⟨rfl, rfl⟩
  absent hfetch := by
    rw [SchemaHistory.load_run_eq, hfetch]
    exact ⟨rfl, rfl⟩
  found stored hfetch := by
    rw [SchemaHistory.load_run_eq, hfetch]
    exact ⟨_, _, rfl, rfl, SchemaHistory.hasMerged_merge hh stored⟩
  again stored hfetch events := by
    intro later
    -- What was merged stays, whatever happens, so the snapshot is still known later.
    have hknows : later.tables.Knows stored :=
      (h.cache.tables.knows_mergeTables stored).mono
        (growsTo_run (h.step (.load (.ok (some stored)))).2 events)
    obtain ⟨merged, hmerge, hsame⟩ := SchemaHistory.merge_of_knows hknows
    refine ⟨merged, ?_, hsame⟩
    rw [SchemaHistory.load_run_eq, hfetch]
    exact congrArg Except.ok hmerge

end

/-- **A history grows by merging**: whatever was recorded, loaded and written before, no list names
a statement twice; from then on every table stays and keeps its list as the beginning of its later
ones; and what a load makes of the history can be told from what the store answers. -/
theorem history_grows_by_merging {σ : Type} [Store σ] (events : List HistoryEvent) :
    let h := (empty.run events).2
    h.cache.tables.IsRepetitionFree ∧
    (∀ later, h.cache.tables.GrowsTo (h.run later).2.cache.tables) ∧
    ∀ s : σ, h.LoadsFrom s := by
  intro h
  exact ⟨isRepetitionFree_run events, growsTo_run h, loadsFrom (hasReached_run events)⟩

/-- A snapshot that no history has written: it repeats a statement, and a list is empty. -/
def foreignSnapshot : StatementLists :=
  .ofList [("a", ["DROP TABLE a", "CREATE TABLE a (x INT)", "DROP TABLE a"]), ("b", [])]

/-- A store with that snapshot. -/
def foreignStore : MemoryStore := ((SchemaHistory.put ⟨1, foreignSnapshot⟩).run .empty).2

/-- A history that has recorded the second of these statements takes over the first one, once. -/
theorem foreignSnapshot_is_merged :
    (SchemaHistory.fetch.run foreignStore).1 = .ok (some foreignSnapshot) ∧
    ∃ merged,
      ((empty.run [.record "a" "CREATE TABLE a (x INT)"]).2.cache.load.run foreignStore).1 =
        .ok (1, merged) ∧
      merged.tables = .ofList [("a", ["CREATE TABLE a (x INT)", "DROP TABLE a"]), ("b", [])] ∧
      merged.isDirty = true := by
  obtain ⟨-, -, hload⟩ :=
    @history_grows_by_merging MemoryStore _ [.record "a" "CREATE TABLE a (x INT)"]
  -- The snapshot in the store is what loading finds, and the tables after the merge are computed
  -- from it.
  have hfetch : (SchemaHistory.fetch.run foreignStore).1 = .ok (some foreignSnapshot) :=
    SchemaHistory.fetch_of_snapshotIn (SchemaHistory.snapshotIn_put _ _) rfl
  obtain ⟨added, merged, hrun, hstep, hmerged⟩ := (hload _).found _ hfetch
  have htables : merged.tables =
      .ofList [("a", ["CREATE TABLE a (x INT)", "DROP TABLE a"]), ("b", [])] := by
    rw [← hstep]
    decide +kernel
  -- One statement was known and two are there in the end, so one was added.
  have hadded : added = 1 := by
    have hcounted := hmerged.counted
    rw [htables] at hcounted
    have hown : (empty.run [.record "a" "CREATE TABLE a (x INT)"]).2.cache.tables.total = 1 := by
      decide +kernel
    have hall : StatementLists.total
        (.ofList [("a", ["CREATE TABLE a (x INT)", "DROP TABLE a"]), ("b", [])]) = 2 := by
      decide +kernel
    omega
  refine ⟨hfetch, merged, hadded ▸ hrun, htables, Bool.eq_true_of_not_eq_false fun hclean => ?_⟩
  rw [hmerged.clean_iff, htables] at hclean
  exact absurd hclean (by decide +kernel)

end SharedHistory

end ChangeFeed

import ChangeFeed.Proofs.History.Writes

/-!
# The schema history: Restored

What was written is found again by the next reader. A snapshot survives its packing, whatever its
texts are. A load into an empty history takes over every statement of a snapshot, as long as no list
names a statement twice; and no list of a history ever does, for whatever is recorded or merged goes
into it once.

## Main results

* `mergeTables_entries`: a snapshot without repetitions is merged as it is.
* `isRepetitionFree_run`: no history has repetitions.
* `persisted_history_is_restored`: a new reader finds what was written.
-/

namespace ChangeFeed

namespace StatementLists

/-! ## Lists without repetitions -/

/-- The number of statements of all tables. -/
def total (s : StatementLists) : Nat := (s.entries.flatMap Prod.snd).length

/-- No table has a statement twice. -/
def IsRepetitionFree (s : StatementLists) : Prop := ∀ e ∈ s.entries, e.2.Nodup

theorem nodup_append_singleton {known : List String} {statement : String} (hknown : known.Nodup)
    (hnew : statement ∉ known) : (known ++ [statement]).Nodup := by
  refine List.nodup_append.2 ⟨hknown, List.pairwise_singleton _ _, ?_⟩
  intro s hs t ht
  rw [List.mem_singleton.1 ht]
  rintro rfl
  exact hnew hs

theorem nodup_appendNew {known : List String} (hknown : known.Nodup) (stored : List String) :
    (appendNew known stored).1.Nodup := by
  induction stored generalizing known with
  | nil => exact hknown
  | cons statement stored ih =>
    rw [appendNew]
    split
    next => exact ih hknown
    next hnew => exact ih (nodup_append_singleton hknown hnew)

/-- Statements that are new, each once, go behind the known ones. -/
theorem appendNew_eq {known stored : List String} (hnodup : (known ++ stored).Nodup) :
    appendNew known stored = (known ++ stored, stored.length) := by
  -- The statements are new one by one, as none is repeated behind those that are known.
  induction stored generalizing known with
  | nil => simp [appendNew]
  | cons statement stored ih =>
    have hnew : statement ∉ known := by
      have hdisjoint := (List.nodup_append.1 hnodup).2.2
      exact fun hmem => hdisjoint _ hmem _ List.mem_cons_self rfl
    have hbehind : known ++ statement :: stored = (known ++ [statement]) ++ stored := by simp
    rw [hbehind] at hnodup ⊢
    rw [appendNew, if_neg hnew, ih hnodup, List.length_cons]

namespace IsRepetitionFree

variable {s : StatementLists}

theorem empty : IsRepetitionFree .empty := nofun

theorem nodup_statements (h : s.IsRepetitionFree) (table : String) :
    (s.statements table).Nodup := by
  rw [statements]
  cases hfound : s.get? table with
  | none => exact .nil
  | some list =>
    obtain ⟨before, after, hentries, -⟩ := List.lookup_eq_some_iff.1 hfound
    refine h (table, list) ?_
    rw [hentries]
    exact List.mem_append_right before List.mem_cons_self

theorem insert (h : s.IsRepetitionFree) (table : String) {list : List String}
    (hlist : list.Nodup) : IsRepetitionFree (s.insert table list) := by
  intro e he
  rcases SortedMap.mem_insertEntry he with rfl | hold
  · exact hlist
  · exact h e hold

theorem mergeTables (h : s.IsRepetitionFree) (stored : List (String × List String)) :
    IsRepetitionFree (s.mergeTables stored).1 := by
  induction stored generalizing s with
  | nil => exact h
  | cons e stored ih => exact ih (h.insert e.1 (nodup_appendNew (h.nodup_statements e.1) e.2))

end IsRepetitionFree

/-- **A snapshot is merged as it is** when its tables come behind those that are there. -/
theorem mergeTables_entries (s : StatementLists) {stored : List (String × List String)}
    (hsorted : (s.entries ++ stored).Pairwise fun a b => a.1 < b.1)
    (hstored : ∀ e ∈ stored, e.2.Nodup) :
    (s.mergeTables stored).1.entries = s.entries ++ stored ∧
      (s.mergeTables stored).2 = (stored.flatMap Prod.snd).length := by
  induction stored generalizing s with
  | nil => exact ⟨(List.append_nil _).symm, rfl⟩
  | cons e stored ih =>
    obtain ⟨table, list⟩ := e
    -- The table is behind all others, so it is not there yet.
    have hnone : s.statements table = [] := by
      have hlookup : s.get? table = none := by
        refine List.lookup_eq_none_iff.2 fun d hd => ?_
        have hlt := (List.pairwise_append.1 hsorted).2.2 d hd _ List.mem_cons_self
        simpa using fun heq => String.lt_irrefl _ (heq ▸ hlt)
      rw [statements, hlookup]
      rfl
    have hlist : appendNew [] list = (list, list.length) :=
      appendNew_eq (hstored _ List.mem_cons_self)
    have hentries := SortedMap.entries_insert_append hsorted
    obtain ⟨hmerged, hcount⟩ := ih (s.insert table list) (hentries ▸ hsorted)
      fun e he => hstored e (List.mem_cons_of_mem _ he)
    rw [mergeTables, hnone, hlist]
    refine ⟨hmerged.trans hentries, ?_⟩
    show list.length + (mergeTables (s.insert table list) stored).2 = _
    rw [hcount, List.flatMap_cons, List.length_append]

/-- An empty history takes over all of a snapshot. -/
theorem mergeTables_empty {s : StatementLists} (h : s.IsRepetitionFree) :
    mergeTables .empty s.entries = (s, s.total) := by
  obtain ⟨hentries, hcount⟩ := mergeTables_entries .empty s.sorted h
  exact Prod.ext (SortedMap.ext hentries) hcount

end StatementLists

/-! ## Histories -/

namespace SchemaHistory

/-- An empty history that absorbs a snapshot is equal to it, and clean. -/
theorem absorb_empty {s : StatementLists} (h : s.IsRepetitionFree) :
    empty.absorb (some s) = (s.total, ⟨s, 1, 1, none⟩) := by
  have hmerge : StatementLists.mergeTables empty.tables s.entries = (s, s.total) :=
    StatementLists.mergeTables_empty h
  rw [absorb, merge, hmerge]
  simp only [if_true]
  rfl

end SchemaHistory

namespace SharedHistory

open StatementLists (IsRepetitionFree)

/-- No move puts a statement twice into a list. -/
theorem CacheMove.isRepetitionFree {c c' : SchemaHistory} (m : CacheMove c c')
    (hfree : c.tables.IsRepetitionFree) : c'.tables.IsRepetitionFree := by
  -- Only records and merges touch the tables, and both look for what is known first.
  cases m with
  | keep => exact hfree
  | record hnew =>
    exact hfree.insert _ (StatementLists.nodup_append_singleton (hfree.nodup_statements _) hnew)
  | merge stored => exact hfree.mergeTables stored.entries
  | beginWrite =>
    rw [SchemaHistory.tables_beginWrite]
    exact hfree
  | endWrite succeeded =>
    rw [SchemaHistory.tables_endWrite]
    exact hfree

theorem isRepetitionFree_run (events : List HistoryEvent) :
    (SharedHistory.empty.run events).2.cache.tables.IsRepetitionFree :=
  cache_run_induction (P := fun c => c.tables.IsRepetitionFree)
    (fun _ _ m hfree => m.isRepetitionFree hfree) IsRepetitionFree.empty events

/-! ## From one reader to the next -/

section

variable {σ : Type} [Store σ] [LawfulStore σ]

/-- A history that was written is in the store. -/
theorem snapshotIn_of_persisted [Gzip.Packer] [Gzip.LawfulPacker] {c : SchemaHistory} {s : σ}
    (h : (c.persist.run s).1.1 = .ok .persisted) :
    SchemaHistory.snapshotIn (c.persist.run s).2 = .ok (some c.tables) := by
  rw [SchemaHistory.persist_run_eq] at h ⊢
  -- Only an attempt that puts something can tell that it has written.
  obtain ⟨-, hbegin⟩ | ⟨-, -, hbegin⟩ | ⟨-, -, hbegin⟩ := c.beginWrite_cases
  · rw [hbegin] at h
    cases h
  · rw [hbegin] at h
    cases h
  · rw [hbegin] at h ⊢
    have hok : ((SchemaHistory.put ⟨c.generation, c.tables⟩).run s : Result Unit × σ).1.isOk =
        true := by
      cases hanswer :
          ((SchemaHistory.put ⟨c.generation, c.tables⟩).run s : Result Unit × σ).1 with
      | error e =>
        simp only [hanswer] at h
        cases h
      | ok _ => rfl
    show SchemaHistory.snapshotIn ((SchemaHistory.put ⟨c.generation, c.tables⟩).run s).2 = _
    rw [SchemaHistory.snapshotIn_put, if_pos hok]

/-- A new reader takes over what the store holds. -/
theorem load_empty {s : σ} {tables : StatementLists}
    (hsnapshot : SchemaHistory.snapshotIn s = .ok (some tables)) (hfree : tables.IsRepetitionFree)
    (hread : ((Store.get SchemaHistory.storeKey : Access σ (Option Json)).run s).1.isOk = true) :
    (SchemaHistory.empty.load.run s).1 = .ok (tables.total, ⟨tables, 1, 1, none⟩) := by
  rw [SchemaHistory.load_run_eq, SchemaHistory.fetch_of_snapshotIn hsnapshot hread,
    ← SchemaHistory.absorb_empty hfree]
  rfl

end

/-- **A history is restored**: every snapshot survives its packing, whatever the names of its tables
and the texts of its statements are, and however its bytes are packed. So when a history was
written, after whatever happened to it, a new reader finds the same statements of every table in the
same order, counts them all, and has nothing to write. -/
theorem persisted_history_is_restored [Gzip.Packer] [Gzip.LawfulPacker] {σ : Type} [Store σ]
    [LawfulStore σ] :
    (∀ snapshot : StatementLists, StatementLists.unpack snapshot.pack = .ok snapshot) ∧
    ∀ (events : List HistoryEvent) (s : σ),
      let c := (SharedHistory.empty.run events).2.cache
      let written := (c.persist.run s).2
      (c.persist.run s).1.1 = .ok .persisted →
      ((Store.get SchemaHistory.storeKey : Access σ (Option Json)).run written).1.isOk = true →
      ∃ fresh, (SchemaHistory.empty.load.run written).1 = .ok (c.tables.total, fresh) ∧
        fresh.tables = c.tables ∧ fresh.isDirty = false := by
  refine ⟨StatementLists.unpack_pack, ?_⟩
  intro events s c written hpersist hread
  have hfree := isRepetitionFree_run events
  have hsnapshot := snapshotIn_of_persisted hpersist
  -- The fresh history counts one change, which is that of the load, and has it saved.
  exact ⟨⟨c.tables, 1, 1, none⟩, load_empty hsnapshot hfree hread, rfl, rfl⟩

/-- What happens to a history until it is written: the name of a table is not a plain word, one text
holds control characters, and another one is empty. -/
def awkwardEvents : List HistoryEvent :=
  [.record "é \"" "DROP\n\x01", .attempt, .record "é \"" "", .endPut 0 false]

/-- The packer at hand writes a text so short byte by byte, and what it writes is restored. -/
theorem awkwardEvents_are_restored :
    ((SharedHistory.empty.run awkwardEvents).2.cache.persist.run MemoryStore.empty).1.1 =
        .ok .persisted ∧
      StatementLists.pack (.single "é \"" ["DROP\n\x01", ""]) =
        "H4sIAAAAAAAA/6tWOrxSIUZJySpaySXIPyAmL6bUwMDAUElHSSm2FgCPU1GdHQAAAA==" ∧
      ∃ fresh,
        (SchemaHistory.empty.load.run ((SharedHistory.empty.run
          awkwardEvents).2.cache.persist.run MemoryStore.empty).2).1 = .ok (2, fresh) ∧
        fresh.tables = .single "é \"" ["DROP\n\x01", ""] ∧
        fresh.isDirty = false := by
  have hpersist : ((SharedHistory.empty.run awkwardEvents).2.cache.persist.run
      MemoryStore.empty).1.1 = .ok .persisted := rfl
  obtain ⟨fresh, hload, htables, hclean⟩ :=
    persisted_history_is_restored.2 awkwardEvents MemoryStore.empty hpersist rfl
  refine ⟨hpersist, by decide +kernel, fresh, hload, ?_, hclean⟩
  rw [htables]
  decide +kernel

end SharedHistory

end ChangeFeed

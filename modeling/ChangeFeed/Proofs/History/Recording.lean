import ChangeFeed.History
import ChangeFeed.Proofs.SortedMap

/-!
# The schema history: Recording

What recording one statement does to the statements of every table, and when two histories cannot be
told apart from outside.
-/

namespace ChangeFeed

theorem StatementLists.statements_insert (s : StatementLists) (table other : String)
    (list : List String) :
    statements (s.insert table list) other =
      if other = table then list else s.statements other := by
  unfold StatementLists.statements
  rw [SortedMap.get?_insert]
  split <;> rfl

/-! ## New statements -/

namespace StatementLists

variable {known stored : List String}

/-- What a list adds to the known statements: those that are new, each where it stands first. -/
def additions (known stored : List String) : List String :=
  (stored.filter (· ∉ known)).eraseDups

theorem mem_additions {statement : String} :
    statement ∈ additions known stored ↔ statement ∈ stored ∧ statement ∉ known := by
  simp [additions]

theorem additions_cons (known : List String) (statement : String) (stored : List String) :
    additions known (statement :: stored) =
      if statement ∈ known then additions known stored
      else statement :: additions (known ++ [statement]) stored := by
  unfold additions
  by_cases hknown : statement ∈ known
  · rw [List.filter_cons_of_neg (by simpa using hknown), if_pos hknown]
  · rw [List.filter_cons_of_pos (by simpa using hknown), if_neg hknown, List.eraseDups_cons,
      List.filter_filter]
    -- Behind its first place a statement counts as known.
    have hboth : ∀ other : String, (!other == statement && decide (other ∉ known)) =
        decide (other ∉ known ++ [statement]) := by
      intro other
      by_cases hsame : other = statement <;> simp [hsame]
    simp only [hboth]

theorem additions_of_subset (h : stored ⊆ known) : additions known stored = [] := by
  rw [additions, List.filter_eq_nil_iff.2 fun statement hmem => by simpa using h hmem]
  rfl

/-- What two lists add one after the other. -/
theorem additions_append (known stored more : List String) :
    additions known (stored ++ more) =
      additions known stored ++ additions (known ++ additions known stored) more := by
  -- What is stored first may make later statements known, so the known ones grow with it.
  induction stored generalizing known with
  | nil => simp [additions]
  | cons statement stored ih =>
    rw [List.cons_append, additions_cons, additions_cons]
    split
    next => exact ih known
    next =>
      rw [ih, List.cons_append, List.append_assoc]
      rfl

/-- Statements that are known or have just come add nothing more. -/
theorem additions_append_of_subset {more : List String} (h : more ⊆ known ++ stored) :
    additions known (stored ++ more) = additions known stored := by
  have hall : more ⊆ known ++ additions known stored := by
    intro statement hmem
    by_cases hknown : statement ∈ known
    · exact List.mem_append_left _ hknown
    · have hstored := (List.mem_append.1 (h hmem)).resolve_left hknown
      exact List.mem_append_right _ (mem_additions.2 ⟨hstored, hknown⟩)
  rw [additions_append, additions_of_subset hall, List.append_nil]

/-- New statements go behind the known ones. -/
theorem appendNew_eq_additions (known stored : List String) :
    appendNew known stored =
      (known ++ additions known stored, (additions known stored).length) := by
  -- A statement that is known adds nothing, and any other one is put behind.
  induction stored generalizing known with
  | nil => simp [appendNew, additions]
  | cons statement stored ih =>
    rw [appendNew, additions_cons]
    split
    next => exact ih known
    next =>
      rw [ih]
      simp

end StatementLists

namespace SchemaHistory

/-! ## One statement -/

/-- A statement that is known already changes nothing. -/
theorem record_of_mem {h : SchemaHistory} {table ddl : String} (hmem : ddl ∈ h.statements table) :
    h.record table ddl = (false, h) := by
  simp [record, hmem]

/-- A new statement goes behind the known ones. -/
theorem record_of_not_mem {h : SchemaHistory} {table ddl : String}
    (hmem : ddl ∉ h.statements table) :
    h.record table ddl =
      (true,
        { h with
          tables := h.tables.insert table (h.statements table ++ [ddl])
          generation := h.generation + 1 }) := by
  simp [record, hmem]

theorem writing_record (h : SchemaHistory) (table statement : String) :
    (h.record table statement).2.writing = h.writing := by
  by_cases hknown : statement ∈ h.statements table
  · rw [record_of_mem hknown]
  · rw [record_of_not_mem hknown]

theorem generation_le_record (h : SchemaHistory) (table statement : String) :
    h.generation ≤ (h.record table statement).2.generation := by
  by_cases hknown : statement ∈ h.statements table
  · rw [record_of_mem hknown]
  · rw [record_of_not_mem hknown]
    exact Nat.le_succ _

theorem statements_record (h : SchemaHistory) (table ddl other : String) :
    (h.record table ddl).2.statements other =
      if other = table ∧ ddl ∉ h.statements table then h.statements table ++ [ddl]
      else h.statements other := by
  by_cases hmem : ddl ∈ h.statements table
  · simp [record_of_mem hmem, hmem]
  · simp only [record_of_not_mem hmem, hmem, not_false_eq_true, and_true]
    exact StatementLists.statements_insert h.tables table other _

/-- After a statement was recorded it is known. -/
theorem mem_statements_record (h : SchemaHistory) (table ddl : String) :
    ddl ∈ (h.record table ddl).2.statements table := by
  rw [statements_record]
  by_cases hmem : ddl ∈ h.statements table <;> simp [hmem]

/-- What is known stays known. -/
theorem statements_subset_record (h : SchemaHistory) (table ddl other : String) :
    h.statements other ⊆ (h.record table ddl).2.statements other := by
  intro x hx
  rw [statements_record]
  split
  next hnew => exact List.mem_append_left _ (hnew.1 ▸ hx)
  next => exact hx

/-! ## Looking the same -/

/-- Two histories that nobody can tell apart: the same statements of every table, as many tables,
and both clean or both dirty. -/
structure LooksSame (h k : SchemaHistory) : Prop where
  statements : ∀ table, k.statements table = h.statements table
  size : k.size = h.size
  isDirty : k.isDirty = h.isDirty

theorem LooksSame.refl (h : SchemaHistory) : h.LooksSame h := ⟨fun _ => rfl, rfl, rfl⟩

end SchemaHistory

end ChangeFeed

import ChangeFeed.Proofs.Sql.Parsing
import ChangeFeed.Sql.Parse.Statement

/-!
# SQL: Statements of a text

A text that does not begin with a semicolon begins with its first statement, and a statement up to
the end of the text is the only one.

## Main results

* `statements?_of_statement`: a text that is one statement.
* `statement_of_statements?`: the first statement of a text is read from its beginning.
-/

namespace ChangeFeed.Sql.Parse

variable {α : Type} {item : Parse α} {a : α} {as : List α} {ts rest : List Token}

/-! ## Items with semicolons between them -/

theorem semicolons_of_ne (h : ts.head? ≠ some (.symbol ";")) : semicolons ts = .ok ([], ts) := by
  refine many_of_none ?_
  rw [bind_of_ok (symbol?_of_ne h)]
  rfl

/-- An item up to the end of the tokens is the only one. -/
theorem series_of_item (hne : ts ≠ []) (hsemicolon : ts.head? ≠ some (.symbol ";"))
    (h : item ts = .ok (a, [])) : series item ts = .ok ([a], []) := by
  obtain ⟨t, ts, rfl⟩ := List.exists_cons_of_ne_nil hne
  rw [series, bind_of_ok (remaining_run _), seriesUpTo, bind_of_ok (semicolons_of_ne hsemicolon),
    bind_of_ok (peek?_run _)]
  simp only [List.head?_cons]
  rw [bind_of_ok h]
  rfl

/-- The first item is read from the beginning. -/
theorem item_of_series (hsemicolon : ts.head? ≠ some (.symbol ";"))
    (h : series item ts = .ok (a :: as, rest)) : ∃ mid, item ts = .ok (a, mid) := by
  rw [series, bind_of_ok (remaining_run _), seriesUpTo, bind_of_ok (semicolons_of_ne hsemicolon),
    bind_of_ok (peek?_run _)] at h
  cases ts with
  | nil => cases h
  | cons t ts =>
    obtain ⟨first, mid, hfirst, h⟩ := of_bind_ok h
    refine ⟨mid, ?_⟩
    rw [hfirst]
    rw [bind_of_ok (peek?_run _)] at h
    -- Whatever ends the item, it is the first of the list.
    cases mid with
    | nil =>
      cases h
      rfl
    | cons u mid =>
      simp only [List.head?_cons] at h
      split at h
      · cases h
        rfl
      · split at h
        · obtain ⟨more, _, _, h⟩ := of_bind_ok h
          cases h
          rfl
        · cases h

end ChangeFeed.Sql.Parse

namespace ChangeFeed.Sql

variable {ts : List Token} {s : Statement} {ss : List Statement}

/-! ## Statements -/

/-- **One statement**: a statement that is read to the end of its text is the only one. -/
theorem statements?_of_statement (hne : ts ≠ []) (hsemicolon : ts.head? ≠ some (.symbol ";"))
    (h : Parse.statement Parse.parts ts = .ok (s, [])) : statements? ts = some [s] := by
  rw [statements?, Parse.series_of_item hne hsemicolon h]

/-- **First statement**: it is read from the beginning of the text. -/
theorem statement_of_statements? (hsemicolon : ts.head? ≠ some (.symbol ";"))
    (h : statements? ts = some (s :: ss)) :
    ∃ rest, Parse.statement Parse.parts ts = .ok (s, rest) := by
  unfold statements? at h
  split at h
  · next hread =>
    cases h
    exact Parse.item_of_series hsemicolon hread
  · cases h

end ChangeFeed.Sql

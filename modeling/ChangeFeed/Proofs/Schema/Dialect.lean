import ChangeFeed.Schema.Dialect

/-!
# Schema changes: What a dialect tells

One dialect looks at the tokens of a text alone. The other one looks at the statements that a
grammar finds in it, whichever grammar that is, and at the tokens only where it finds none or where
a statement is passed on.

## Main results

* `passthrough_of_tokens`: the dialect that passes statements on looks at tokens alone.
* `basic_of_unread`, `basic_of_single`, `basic_of_list`: the other one under any grammar.
* `basic_of_none`, `basic_of_one`, `basic_of_several`: the same where the tokens are known, under
  the grammar at hand.
-/

namespace ChangeFeed.Schema

open Sql (Token Statement Grammar statements?)

variable {sql : String} {ts : List Token} {s : Statement} {ss : List Statement}

/-- Only the error is named differently here. -/
theorem tokens_eq_ok_iff : tokens sql = .ok ts ↔ Sql.tokens sql = .ok ts := by
  unfold tokens
  cases Sql.tokens sql with
  | error => exact ⟨nofun, nofun⟩
  | ok => constructor <;> rintro ⟨⟩ <;> rfl

/-! ## Under any grammar -/

section AnyGrammar

variable [Grammar]

/-- No grammar plays a part where statements are passed on. -/
theorem passthrough_of_tokens (h : Sql.tokens sql = .ok ts) :
    Dialect.passthrough.changes sql = unparsedChange sql ts := by
  simp only [Dialect.changes, tokens_eq_ok_iff.2 h]
  simp only [bind, Except.bind]

/-- A text that cannot be read as statements is passed on. -/
theorem basic_of_unread (hread : Grammar.read? sql = none) :
    Dialect.basic.changes sql = Dialect.passthrough.changes sql := by
  simp only [Dialect.changes, structuredChanges, hread]

/-- A single statement is told under the text as it stands. -/
theorem basic_of_single (hread : Grammar.read? sql = some [s]) :
    Dialect.basic.changes sql = ofStatement sql s := by
  simp only [Dialect.changes, structuredChanges, hread]

/-- Statements among others are told under their canonical texts. -/
theorem basic_of_list (hread : Grammar.read? sql = some ss) (hss : ss.length ≠ 1) :
    Dialect.basic.changes sql = ofStatements ss := by
  simp only [Dialect.changes, structuredChanges, hread]
  split
  · contradiction
  · next heq =>
    cases heq
    exact absurd rfl hss
  · next heq => cases heq; rfl

end AnyGrammar

/-! ## Under the grammar at hand -/

/-- The grammar at hand reads the tokens of a text. -/
theorem read?_of_tokens (h : Sql.tokens sql = .ok ts) : Grammar.read? sql = statements? ts := by
  simp only [Grammar.read?, h, Except.toOption, Option.bind_some]

/-- Without statements the tokens alone are looked at. -/
theorem basic_of_none (h : Sql.tokens sql = .ok ts) (hread : statements? ts = none) :
    Dialect.basic.changes sql = unparsedChange sql ts :=
  (basic_of_unread ((read?_of_tokens h).trans hread)).trans (passthrough_of_tokens h)

/-- A single statement is told from the text that holds it. -/
theorem basic_of_one (h : Sql.tokens sql = .ok ts) (hread : statements? ts = some [s]) :
    Dialect.basic.changes sql = ofStatement sql s :=
  basic_of_single ((read?_of_tokens h).trans hread)

/-- Several statements are told one by one, from their canonical texts. -/
theorem basic_of_several (h : Sql.tokens sql = .ok ts) (hread : statements? ts = some ss)
    (hss : ss.length ≠ 1) : Dialect.basic.changes sql = ofStatements ss :=
  basic_of_list ((read?_of_tokens h).trans hread) hss

/-! ## Statements that are passed on -/

/-- The structure of the statement is not told. -/
def isPassedOn : Statement → Bool
  | .renameTables _ | .other _ => true
  | .createTable .. | .alterTable .. | .dropTables _ | .truncateTables _ => false

/-- A statement that is passed on is told as if the dialect knew no structure at all. -/
theorem ofStatement_eq_passthrough [Grammar] (hs : isPassedOn s = true) :
    ofStatement sql s = Dialect.passthrough.changes sql := by
  cases s with
  | renameTables pairs => rfl
  | other text => rfl
  | _ => cases hs

/-- So its change is found in the tokens of the text. -/
theorem ofStatement_of_isPassedOn (h : Sql.tokens sql = .ok ts) (hs : isPassedOn s = true) :
    ofStatement sql s = unparsedChange sql ts :=
  (ofStatement_eq_passthrough hs).trans (passthrough_of_tokens h)

end ChangeFeed.Schema

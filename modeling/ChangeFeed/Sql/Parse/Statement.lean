import ChangeFeed.Sql.Lexer
import ChangeFeed.Sql.Parse.Object
import ChangeFeed.Sql.Parse.Privilege
import ChangeFeed.Sql.Parse.Report
import ChangeFeed.Sql.Parse.Session

/-!
# SQL: Reading statements

A statement is told by its first word. A statement that does not touch the structure of a table is
kept as its canonical text. A text holds statements separated by semicolons.
-/

namespace ChangeFeed.Sql.Parse

/-! ## Statements -/

/-- The statements that do not create, change or drop an object, by their first words. -/
def actions (inner : Inner) : List (String × Parse String) :=
  [("INSERT", insert inner "INSERT"), ("REPLACE", insert inner "REPLACE"), ("UPDATE", update inner),
   ("DELETE", delete inner), ("MERGE", merge inner), ("COPY", copy inner),
   ("UNLOAD", unload inner), ("GRANT", grant), ("REVOKE", revoke), ("BEGIN", begin),
   ("START", start), ("COMMIT", ("COMMIT" ++ ·) <$> transactionEnd),
   ("END", ("END" ++ ·) <$> transactionEnd), ("ROLLBACK", rollback),
   ("SAVEPOINT", ("SAVEPOINT " ++ ·) <$> identText), ("RELEASE", release),
   ("USE", ("USE " ++ ·) <$> nameText), ("SET", setting inner), ("LOCK", lockTables),
   ("UNLOCK", unlockTables), ("DECLARE", declare inner), ("FETCH", fetch), ("CLOSE", close),
   ("PREPARE", prepare inner), ("EXECUTE", execute inner), ("EXEC", execute inner),
   ("DEALLOCATE", deallocate), ("CALL", call inner), ("SHOW", showObjects inner),
   ("EXPLAIN", explain inner "EXPLAIN"), ("DESC", explain inner "DESC"),
   ("DESCRIBE", explain inner "DESCRIBE"), ("ANALYZE", analyze inner), ("KILL", kill),
   ("FLUSH", flush), ("DISCARD", discard), ("ATTACH", attach inner), ("PRAGMA", pragma),
   ("ASSERT", assertion inner), ("RAISERROR", raise inner), ("CACHE", cache inner),
   ("UNCACHE", uncache), ("MSCK", repair)]

/-- The text of a statement whose first keyword has been read, and that does not create, change or
drop an object. -/
def actionTail (inner : Inner) (k : String) : Parse String :=
  ((actions inner).lookup k).getD fail

/-- A statement whose first keyword has been read. -/
def statementTail (inner : Inner) (k : String) : Parse Statement := do
  match k with
  | "CREATE" => create inner
  | "ALTER" => alter inner
  | "DROP" => drop inner
  | "TRUNCATE" => truncate inner
  | "RENAME" =>
    keyword "TABLE"
    renameTables
  | _ => .other <$> actionTail inner k

def statement (inner : Inner) : Parse Statement := do
  match ← peek? with
  | some (.symbol "(") => .other <$> inner.query
  | some t =>
    match t.keyword? with
    | some "SELECT" | some "WITH" | some "VALUES" => .other <$> inner.query
    | some k =>
      let _ ← next
      statementTail inner k
    | none => fail
  | none => fail

/-! ## Nesting -/

/-- The readers for what is nested inside when `depth` further levels are allowed. -/
def nested : (depth : Nat) → Inner
  | 0 => ⟨fun _ _ => .error .tooDeep, fun _ => .error .tooDeep, fun _ => .error .tooDeep⟩
  | depth + 1 =>
    ⟨exprAbove (nested depth), query (nested depth), Statement.text <$> statement (nested depth)⟩

/-- How many levels of expressions, queries and statements may be nested in a statement. -/
def maxDepth : Nat := 49

/-- The readers for the parts of a statement. -/
def parts : Inner := nested maxDepth

end ChangeFeed.Sql.Parse

namespace ChangeFeed.Sql

/-- The statements of a text given as its tokens; nothing if some part of it cannot be read. A text
may end with the keyword that closes a block. -/
def statements? (ts : List Token) : Option (List Statement) :=
  match Parse.series (Parse.statement Parse.parts) ts with
  | .ok (ss, _) => some ss
  | .error _ => none

/-- The grammar that is at hand wherever no other one is given. -/
instance : Grammar := ⟨fun sql => (tokens sql).toOption.bind statements?⟩

end ChangeFeed.Sql

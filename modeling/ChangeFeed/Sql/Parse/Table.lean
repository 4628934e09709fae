import ChangeFeed.Sql.Parse.Column

/-!
# SQL: Reading table statements

`CREATE TABLE`, `ALTER TABLE`, `DROP TABLE`, `TRUNCATE` and `RENAME TABLE`.
-/

namespace ChangeFeed.Sql.Parse

/-! ## Table options -/

def exprList (inner : Inner) : Parse Unit := do
  let _ ← parenthesized (commaSeparated inner.expr)

/-- A mark between the fields or lines of a file. -/
def delimiter? : Parse (Option Unit) := do
  match ← oneOf? ["FIELDS", "COLLECTION", "MAP", "LINES", "NULL"] with
  | none => return none
  | some k =>
    let announced :=
      match k with
      | "COLLECTION" => ["ITEMS", "TERMINATED", "BY"]
      | "MAP" => ["KEYS", "TERMINATED", "BY"]
      | "NULL" => ["DEFINED", "AS"]
      | _ => ["TERMINATED", "BY"]
    if ← keywords? announced then
      let _ ← ident
      if k = "FIELDS" then
        if ← keywords? ["ESCAPED", "BY"] then
          let _ ← ident
      return some ()
    else return none

/-- How rows are written to a file. -/
def rowFormat : Parse Unit := do
  keyword "FORMAT"
  match ← oneOf? ["SERDE", "DELIMITED"] with
  | some "SERDE" =>
    let _ ← literalText
  | _ =>
    let _ ← many delimiter?

/-- Where and how the files of a table are kept. -/
def storageClause? (inner : Inner) : Parse (Option Unit) := do
  match ← oneOf? ["ROW", "STORED", "LOCATION"] with
  | some "ROW" => some <$> rowFormat
  | some "STORED" =>
    keyword "AS"
    if ← keyword? "INPUTFORMAT" then
      let _ ← inner.expr
      keyword "OUTPUTFORMAT"
      let _ ← inner.expr
      return some ()
    else
      let _ ← oneOf fileFormats
      return some ()
  | some _ =>
    let _ ← literalText
    return some ()
  | none =>
    let os ← namedOptions inner ["WITH", "SERDEPROPERTIES"]
    return if os.isEmpty then none else some ()

/-- Columns by which the files of a table are divided, and where these files are kept. -/
def storage (inner : Inner) : Parse Unit := do
  if ← keywords? ["PARTITIONED", "BY"] then
    let _ ← parenthesized (commaSeparated (column inner))
  let _ ← many (storageClause? inner)

/-- A word, quoted or not. -/
def anyWord : Parse Unit := do
  match ← next with
  | .word .. => return ()
  | _ => fail

/-- A whole number that fits in 32 bits. -/
def smallNumber : Parse Unit := do
  match ← next with
  | .number digits _ =>
    match decimal? (UInt32.size - 1) digits with
    | some _ => return ()
    | none => fail
  | _ => fail

def tableComment : Parse Unit := do
  let _ ← symbol? "="
  match ← next with
  | .single _ => return ()
  | _ => fail

/-- The order in which a table keeps its rows. -/
def keptOrder (inner : Inner) : Parse Unit := do
  if ← symbol? "(" then
    if ← symbol? ")" then return ()
    let _ ← commaSeparated inner.expr
    symbol ")"
  else
    let _ ← inner.expr

/-- What happens to the rows of a table at the end of a transaction. -/
def commitAction : Parse Unit := do
  match ← firstOf? [["DELETE", "ROWS"], ["PRESERVE", "ROWS"], ["DROP"]] with
  | some _ => return ()
  | none => fail

/-- The options behind the columns of a table, in their fixed order. -/
def tableOptions (inner : Inner) : Parse Unit := do
  let _ ← keywords? ["WITHOUT", "ROWID"]
  storage inner
  let _ ← namedOptions inner ["WITH"]
  let _ ← namedOptions inner ["TBLPROPERTIES"]
  if ← keyword? "ENGINE" then
    symbol "="
    anyWord
    let _ ← columns?
  if ← keyword? "AUTO_INCREMENT" then
    let _ ← symbol? "="
    smallNumber
  if ← keywords? ["ORDER", "BY"] then keptOrder inner
  if ← keywords? ["DEFAULT", "CHARSET"] then
    symbol "="
    anyWord
  if ← keyword? "COLLATE" then
    symbol "="
    anyWord
  if ← keywords? ["ON", "COMMIT"] then commitAction
  let _ ← keyword? "STRICT"
  if ← keyword? "COMMENT" then tableComment

/-- The query from which a table takes its rows. -/
def rowSource (inner : Inner) : Parse Unit := do
  if ← keyword? "AS" then
    let _ ← inner.query
  else if ← ahead? "SELECT" then
    let _ ← inner.query

/-! ## Creating tables -/

def tableElement (inner : Inner) : Parse (Column ⊕ Constraint) := do
  match ← constraint? inner with
  | some c => return .inr c
  | none =>
    match ← peek? with
    | some (.word ..) => .inl <$> column inner
    | _ => fail

/-- The columns and constraints of a table in parentheses, or nothing. -/
def tableElements (inner : Inner) : Parse (List Column × List Constraint) := do
  if ← symbol? "(" then
    if ← symbol? ")" then return ([], [])
    let es ← commaSeparated (tableElement inner)
    symbol ")"
    return (es.filterMap fun e => e.getLeft?, es.filterMap fun e => e.getRight?)
  else return ([], [])

/-- Takes a dotted name; where a part of it is missing, takes what stands in its place. -/
def looseName : (limit : Nat) → Parse Unit
  | 0 => return ()
  | limit + 1 => do
    match ← next? with
    | some (.word ..) | some (.single _) | some (.double _) =>
      if ← symbol? "." then looseName limit
    | _ => return ()

/-- The server group that a statement is meant for. -/
def cluster? : Parse Unit := do
  if ← keywords? ["ON", "CLUSTER"] then
    let _ ← ident

/-- `CREATE TABLE` behind its keywords. -/
def createTable (inner : Inner) : Parse Statement := do
  let _ ← keywords? ["IF", "NOT", "EXISTS"]
  let n ← name
  cluster?
  if (← oneOf? ["LIKE", "ILIKE"]).isSome then looseName ((← remaining) + 1)
  if ← keyword? "CLONE" then looseName ((← remaining) + 1)
  let (cols, constraints) ← tableElements inner
  tableOptions inner
  rowSource inner
  return .createTable n cols constraints

/-- `CREATE EXTERNAL TABLE` behind its keywords. -/
def createExternalTable (inner : Inner) : Parse Statement := do
  let _ ← keywords? ["IF", "NOT", "EXISTS"]
  let n ← name
  let (cols, constraints) ← tableElements inner
  storage inner
  let _ ← namedOptions inner ["TBLPROPERTIES"]
  return .createTable n cols constraints

/-! ## Altering tables -/

def columnPlace? : Parse Unit := do
  if ← keyword? "FIRST" then return ()
  else if ← keyword? "AFTER" then
    let _ ← ident

/-- A new name and definition of a column, without collation or named options. -/
def columnChange (inner : Inner) : Parse Column := do
  let i ← ident
  let t ← dataType
  let options ← many (columnOption? inner)
  columnPlace?
  return ⟨i, t, options⟩

/-- `ADD` behind its keyword. -/
def addClause (inner : Inner) : Parse AlterClause := do
  match ← constraint? inner with
  | some _ => return .other
  | none =>
    let _ ← keywords? ["IF", "NOT", "EXISTS"]
    let partitions ← many (after? "PARTITION" (exprList inner))
    if partitions.isEmpty then
      let _ ← keyword? "COLUMN"
      let c ← column inner
      columnPlace?
      return .addColumn c
    else return .other

/-- `RENAME` behind its keyword. -/
def renameClause : Parse AlterClause := do
  if ← keyword? "TO" then
    let n ← name
    return .renameTable n
  else
    let _ ← keyword? "COLUMN"
    let old ← ident
    keyword "TO"
    let new ← ident
    return .renameColumn old new

/-- Switching rules, triggers and row security. -/
def switchClause (forms : List (List String)) : Parse AlterClause := do
  if ← keywords? ["ROW", "LEVEL", "SECURITY"] then return .other
  else
    match ← firstOf? forms with
    | some _ =>
      let _ ← ident
      return .other
    | none => fail

/-- What becomes of the objects that depend on a dropped one. -/
def dropBehavior? : Parse Unit := do
  let _ ← oneOf? ["CASCADE", "RESTRICT"]

/-- `DROP` behind its keyword. -/
def dropClause (inner : Inner) : Parse AlterClause := do
  if (← firstOf? [["IF", "EXISTS", "PARTITION"], ["PARTITION"]]).isSome then
    exprList inner
    return .other
  else if ← keyword? "CONSTRAINT" then
    let _ ← keywords? ["IF", "EXISTS"]
    let _ ← ident
    dropBehavior?
    return .other
  else if ← keywords? ["PRIMARY", "KEY"] then return .other
  else
    let _ ← keyword? "PROJECTION"
    if ← keywords? ["CLUSTERING", "KEY"] then return .other
    else
      let _ ← keyword? "COLUMN"
      let _ ← keywords? ["IF", "EXISTS"]
      let i ← ident
      dropBehavior?
      return .dropColumn i

/-- `ALTER` of a column behind its keyword. -/
def alterColumnClause (inner : Inner) : Parse AlterClause := do
  let _ ← keyword? "COLUMN"
  let i ← ident
  match ← firstOf? [["SET", "NOT", "NULL"], ["DROP", "NOT", "NULL"], ["DROP", "DEFAULT"]] with
  | some _ => return .other
  | none =>
    if ← keywords? ["SET", "DEFAULT"] then
      let _ ← inner.expr
      return .other
    else if ← keywords? ["SET", "DATA", "TYPE"] then
      let t ← dataType
      return .setType i t
    else
      keywords ["ADD", "GENERATED"]
      let _ ← firstOf? [["ALWAYS"], ["BY", "DEFAULT"]]
      keywords ["AS", "IDENTITY"]
      sequenceOptions?
      return .other

/-- The clauses that begin with none of the common words. -/
def rareClause (inner : Inner) : Parse AlterClause := do
  if ← keyword? "SWAP" then
    keyword "WITH"
    let _ ← name
    return .other
  else if ← keywords? ["CLUSTER", "BY"] then
    exprList inner
    return .other
  else if (← firstOf? [["SUSPEND", "RECLUSTER"], ["RESUME", "RECLUSTER"]]).isSome then
    return .other
  else
    let os ← namedOptions inner ["SET", "TBLPROPERTIES"]
    if os.isEmpty then fail else return .other

def alterClause (inner : Inner) : Parse AlterClause := do
  if ← keyword? "ADD" then addClause inner
  else if ← keyword? "RENAME" then renameClause
  else if ← keyword? "DISABLE" then switchClause [["RULE"], ["TRIGGER"]]
  else if ← keyword? "ENABLE" then
    switchClause [["ALWAYS", "RULE"], ["ALWAYS", "TRIGGER"], ["REPLICA", "RULE"],
      ["REPLICA", "TRIGGER"], ["RULE"], ["TRIGGER"]]
  else
    let _ ← keywords? ["CLEAR", "PROJECTION"]
    let _ ← keywords? ["MATERIALIZE", "PROJECTION"]
    if ← keyword? "DROP" then dropClause inner
    else if ← keyword? "PARTITION" then
      exprList inner
      keywords ["RENAME", "TO", "PARTITION"]
      exprList inner
      return .other
    else if ← keyword? "CHANGE" then
      let _ ← keyword? "COLUMN"
      let old ← ident
      let c ← columnChange inner
      return .changeColumn old c
    else if ← keyword? "MODIFY" then
      let _ ← keyword? "COLUMN"
      let c ← columnChange inner
      return .modifyColumn c
    else if ← keyword? "ALTER" then alterColumnClause inner
    else rareClause inner

/-- `ALTER TABLE` behind its keywords. -/
def alterTable (inner : Inner) : Parse Statement := do
  let _ ← keywords? ["IF", "EXISTS"]
  let _ ← keyword? "ONLY"
  let n ← name
  cluster?
  let clauses ← commaSeparated (alterClause inner)
  if (← firstOf? [["LOCATION"], ["SET", "LOCATION"]]).isSome then
    let _ ← ident
  return .alterTable n clauses

/-! ## Dropping, emptying and renaming tables -/

/-- How far a `DROP` reaches. -/
def dropReach : Parse String := do
  let cascade ← keyword? "CASCADE"
  let restrict ← keyword? "RESTRICT"
  let purge ← keyword? "PURGE"
  if cascade && restrict then fail
  else
    return (if cascade then " CASCADE" else "") ++ (if restrict then " RESTRICT" else "") ++
      if purge then " PURGE" else ""

/-- `DROP TABLE` behind its keywords. -/
def dropTables : Parse Statement := do
  let _ ← keywords? ["IF", "EXISTS"]
  let ns ← names
  let _ ← dropReach
  return .dropTables ns

/-- `TRUNCATE` behind its keyword. -/
def truncate (inner : Inner) : Parse Statement := do
  let _ ← keyword? "TABLE"
  let _ ← keyword? "ONLY"
  let ns ← names
  if ← keyword? "PARTITION" then exprList inner
  cluster?
  return .truncateTables ns

/-- One table's old and new name. -/
def renamed : Parse (Name × Name) := do
  let old ← name
  keyword "TO"
  let new ← name
  return (old, new)

/-- `RENAME TABLE` behind its keywords. -/
def renameTables : Parse Statement := do
  let pairs ← commaSeparated renamed
  return .renameTables pairs

end ChangeFeed.Sql.Parse

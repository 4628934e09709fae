import ChangeFeed.Sql.Parse.Source

/-!
# SQL: Reading statements about a session

Transactions, settings, locks, cursors, prepared statements, and the upkeep of a server.
-/

namespace ChangeFeed.Sql.Parse

/-! ## Transactions -/

def transactionMode? : Parse (Option String) := do
  if ← keywords? ["ISOLATION", "LEVEL"] then
    let level ← phrase [["READ", "UNCOMMITTED"], ["READ", "COMMITTED"], ["REPEATABLE", "READ"],
      ["SERIALIZABLE"], ["SNAPSHOT"]]
    return some ("ISOLATION LEVEL " ++ level)
  else
    let access ← firstOf? [["READ", "ONLY"], ["READ", "WRITE"]]
    return access.map phraseText

/-- Modes one after the other. A comma may stand behind each, and another one follows it. -/
def modesUpTo (required : Bool) : (limit : Nat) → Parse (List String)
  | 0 => return []
  | limit + 1 => do
    match ← transactionMode? with
    | some mode =>
      let modes ← modesUpTo (← symbol? ",") limit
      return mode :: modes
    | none => if required then fail else return []

def transactionModes : Parse String := do
  let modes ← modesUpTo false ((← remaining) + 1)
  return if modes.isEmpty then "" else " " ++ commaText modes

/-- `BEGIN` behind its keyword. -/
def begin : Parse String := do
  let unit ← phrase? [["TRANSACTION"], ["WORK"]]
  let modes ← transactionModes
  return "BEGIN" ++ unit ++ modes

/-- `START` behind its keyword. -/
def start : Parse String := do
  keyword "TRANSACTION"
  let modes ← transactionModes
  return "START TRANSACTION" ++ modes

/-- What follows the end of a transaction. -/
def transactionEnd : Parse String := do
  let _ ← oneOf? ["TRANSACTION", "WORK"]
  if ← keyword? "AND" then
    let unchained ← keyword? "NO"
    keyword "CHAIN"
    return if unchained then "" else " AND CHAIN"
  else return ""

/-- `ROLLBACK` behind its keyword. -/
def rollback : Parse String := do
  let chain ← transactionEnd
  if ← keyword? "TO" then
    let _ ← keyword? "SAVEPOINT"
    let i ← ident
    return "ROLLBACK" ++ chain ++ " TO SAVEPOINT " ++ i.render
  else return "ROLLBACK" ++ chain

/-- `RELEASE` behind its keyword. -/
def release : Parse String := do
  let _ ← keyword? "SAVEPOINT"
  let i ← ident
  return "RELEASE SAVEPOINT " ++ i.render

/-! ## Settings -/

/-- The role of a session. -/
def roleSetting (modifier : Option String) : Parse String := do
  keyword "ROLE"
  let role ← if ← keyword? "NONE" then pure "NONE" else identText
  let range := if modifier = some "HIVEVAR" then none else modifier
  return "SET" ++ textBehind " " range ++ " ROLE " ++ role

/-- The names of a character set and of a collation, kept without their quotes. -/
def charsetSetting : Parse String := do
  if ← keyword? "DEFAULT" then return "SET NAMES DEFAULT"
  else
    let charset ← literalText
    let collation ← after? "COLLATE" literalText
    return "SET NAMES " ++ charset ++ textBehind " COLLATE " collation

/-- The value of a setting; a query may stand without its parentheses. -/
def settingValue (inner : Inner) : Parse String := do
  let select ← ahead? "SELECT"
  let bound ← ahead? "WITH"
  if select || bound then
    let q ← inner.query
    return "(" ++ q ++ ")"
  else exprText inner

/-- The settings that need no equals sign. -/
def wordedSetting (inner : Inner) (modifier : Option String) (target : String) : Parse String := do
  let range := if modifier = some "LOCAL" then "LOCAL " else ""
  if target.map Char.toUpper = "TIMEZONE" then
    let zone ← exprText inner
    return "SET " ++ range ++ "TIME ZONE " ++ zone
  else if target = "CHARACTERISTICS" then
    keywords ["AS", "TRANSACTION"]
    let modes ← transactionModes
    return "SET SESSION CHARACTERISTICS AS TRANSACTION" ++ modes
  else if target = "TRANSACTION" && modifier.isNone then
    if ← keyword? "SNAPSHOT" then
      let l ← literal
      return "SET TRANSACTION SNAPSHOT " ++ l.render
    else
      let modes ← transactionModes
      return "SET TRANSACTION" ++ modes
  else fail

/-- A setting behind what it is set for. -/
def settingTail (inner : Inner) (modifier : Option String) : Parse String := do
  let target ← if ← keywords? ["TIME", "ZONE"] then pure "TIMEZONE" else nameText
  if target.map Char.toUpper = "NAMES" then charsetSetting
  else
    let equated ← symbol? "="
    let assigned ← if equated then pure true else keyword? "TO"
    if assigned then
      let range :=
        match modifier with
        | some "LOCAL" => "LOCAL "
        | some "HIVEVAR" => "HIVEVAR:"
        | _ => ""
      let texts ← commaSeparated (settingValue inner)
      return "SET " ++ range ++ target ++ " = " ++ commaText texts
    else wordedSetting inner modifier target

/-- `SET` behind its keyword. -/
def setting (inner : Inner) : Parse String := do
  let modifier ← oneOf? ["SESSION", "LOCAL", "HIVEVAR"]
  if modifier = some "HIVEVAR" then
    symbol ":"
    settingTail inner modifier
  else
    match ← optional? (roleSetting modifier) with
    | some text => return text
    | none => settingTail inner modifier

/-! ## Locks -/

def tableLock : Parse String := do
  let i ← ident
  let a ← alias? ["READ", "WRITE", "LOW_PRIORITY"]
  if ← keyword? "READ" then
    let own ← words? ["LOCAL"]
    return i.render ++ aliasText a ++ " READ" ++ own
  else
    let low ← words? ["LOW_PRIORITY"]
    keyword "WRITE"
    return i.render ++ aliasText a ++ low ++ " WRITE"

def lockTables : Parse String := do
  keyword "TABLES"
  let locks ← commaSeparated tableLock
  return "LOCK TABLES " ++ commaText locks

def unlockTables : Parse String := do
  keyword "TABLES"
  return "UNLOCK TABLES"

/-! ## Cursors -/

/-- `DECLARE` behind its keyword. -/
def declare (inner : Inner) : Parse String := do
  let i ← ident
  let binary ← words? ["BINARY"]
  let sensitivity ← phrase? [["INSENSITIVE"], ["ASENSITIVE"]]
  let scroll ← phrase? [["SCROLL"], ["NO", "SCROLL"]]
  keyword "CURSOR"
  let hold ←
    match ← oneOf? ["WITH", "WITHOUT"] with
    | some k => do
      keyword "HOLD"
      pure (" " ++ k ++ " HOLD")
    | none => pure ""
  keyword "FOR"
  let q ← inner.query
  return "DECLARE " ++ i.render ++ binary ++ sensitivity ++ scroll ++ " CURSOR" ++ hold ++
    " FOR " ++ q

/-- A number, or a mark for one. -/
def numberLiteral : Parse String := do
  match ← literal with
  | .number digits long => return (Literal.number digits long).render
  | .placeholder text => return text
  | _ => fail

/-- Which rows are fetched. -/
def fetchDirection : Parse String := do
  match ← oneOf? ["NEXT", "PRIOR", "FIRST", "LAST", "ABSOLUTE", "RELATIVE", "FORWARD", "BACKWARD",
      "ALL"] with
  | none => numberLiteral
  | some k =>
    if k = "ABSOLUTE" || k = "RELATIVE" then (k ++ " " ++ ·) <$> numberLiteral
    else if k = "FORWARD" || k = "BACKWARD" then
      if ← keyword? "ALL" then return k ++ " ALL" else (k ++ " " ++ ·) <$> numberLiteral
    else return k

/-- `FETCH` behind its keyword. -/
def fetch : Parse String := do
  let direction ← fetchDirection
  let _ ← oneOf ["FROM", "IN"]
  let i ← ident
  let into ← clause? ["INTO"] nameText
  return "FETCH " ++ direction ++ " IN " ++ i.render ++ into

/-- `CLOSE` behind its keyword. -/
def close : Parse String := do
  if ← keyword? "ALL" then return "CLOSE ALL" else ("CLOSE " ++ ·) <$> identText

/-! ## Prepared statements and procedures -/

/-- `PREPARE` behind its keyword. -/
def prepare (inner : Inner) : Parse String := do
  let i ← ident
  let types ←
    if ← symbolAhead? "(" then do
      let ts ← parenthesized (commaSeparated dataType)
      pure ("(" ++ commaText (ts.map DataType.render) ++ ") ")
    else pure ""
  keyword "AS"
  let s ← inner.statement
  return "PREPARE " ++ i.render ++ " " ++ types ++ "AS " ++ s

/-- The values that a prepared statement is given without parentheses. -/
def executedValues (inner : Inner) : Parse String := do
  match ← peek? with
  | none | some (.symbol ";") => return ""
  | some t => if t.isKeyword "USING" then return "" else (" " ++ ·) <$> exprListText inner

/-- `EXECUTE` behind its keyword. -/
def execute (inner : Inner) : Parse String := do
  let n ← name
  let given ←
    if ← symbol? "(" then do
      let es ← if ← symbolAhead? ")" then pure "" else exprListText inner
      symbol ")"
      pure ("(" ++ es ++ ")")
    else executedValues inner
  let used ← clause? ["USING"] (exprListText inner)
  return "EXECUTE " ++ n.render ++ given ++ used

/-- `DEALLOCATE` behind its keyword. -/
def deallocate : Parse String := do
  let prepared ← words? ["PREPARE"]
  let i ← ident
  return "DEALLOCATE" ++ prepared ++ " " ++ i.render

/-- `CALL` behind its keyword. -/
def call (inner : Inner) : Parse String := do
  let n ← name
  if ← symbolAhead? "(" then
    let arguments ← callTail inner
    return "CALL " ++ n.render ++ Piece.renderAll arguments
  else return "CALL " ++ n.render

/-! ## Upkeep -/

/-- `KILL` behind its keyword. -/
def kill : Parse String := do
  let kind ← phrase? [["CONNECTION"], ["QUERY"]]
  let n ← whole
  return "KILL" ++ kind ++ " " ++ toString n

/-- What is known of a request to write tables out. -/
structure Flush where
  tables : List Name
  locks : Bool
  exports : Bool

/-- What follows `FLUSH TABLES`: names and words in any order. The token that ends them is taken
with them. -/
def flushTables : (limit : Nat) → Flush → Parse Flush
  | 0, f => return f
  | limit + 1, f => do
    match ← peek? with
    | some (.word text quoted) =>
      if quoted || !(isKeywordText text) then
        let ns ← names
        flushTables limit { f with tables := ns }
      else if ← keyword? "WITH" then
        let locks ← keywords? ["READ", "LOCK"]
        flushTables limit { f with locks := locks }
      else if ← keyword? "FOR" then
        let exports ← keyword? "EXPORT"
        flushTables limit { f with exports := exports }
      else
        let _ ← next?
        flushTables limit f
    | _ =>
      let _ ← next?
      return f

def Flush.text (f : Flush) : String :=
  "TABLES" ++ (if f.tables.isEmpty then "" else " " ++ namesText f.tables) ++
    (if f.locks then " WITH READ LOCK" else "") ++ (if f.exports then " FOR EXPORT" else "")

/-- What is written out, besides tables. -/
def flushable : List (List String) :=
  [["BINARY", "LOGS"], ["ENGINE", "LOGS"], ["ERROR", "LOGS"], ["GENERAL", "LOGS"], ["HOSTS"],
   ["PRIVILEGES"], ["OPTIMIZER_COSTS"], ["SLOW", "LOGS"], ["STATUS"], ["USER_RESOURCES"], ["LOGS"]]

/-- `FLUSH` behind its keyword. -/
def flush : Parse String := do
  let place ← phrase? [["NO_WRITE_TO_BINLOG"], ["LOCAL"]]
  let target ←
    if ← keyword? "TABLES" then Flush.text <$> flushTables ((← remaining) + 1) ⟨[], false, false⟩
    else if ← keywords? ["RELAY", "LOGS"] then
      ("RELAY LOGS" ++ ·) <$> clause? ["FOR", "CHANNEL"] nameText
    else phrase flushable
  return "FLUSH" ++ place ++ " " ++ target

/-- `DISCARD` behind its keyword. -/
def discard : Parse String := do
  let k ← oneOf ["ALL", "PLANS", "SEQUENCES", "TEMP", "TEMPORARY"]
  return "DISCARD " ++ if k = "TEMPORARY" then "TEMP" else k

/-- `ATTACH` behind its keyword. -/
def attach (inner : Inner) : Parse String := do
  let database ← words? ["DATABASE"]
  let e ← inner.expr
  keyword "AS"
  let i ← ident
  return "ATTACH" ++ database ++ " " ++ e.render ++ " AS " ++ i.render

/-- A value of a `PRAGMA`: a text, a number or a mark for one. -/
def pragmaValue : Parse String := do
  match ← literal with
  | .single text => return (Literal.single text).render
  | .double text => return (Literal.double text).render
  | .number digits long => return (Literal.number digits long).render
  | .placeholder text => return text
  | _ => fail

/-- `PRAGMA` behind its keyword. -/
def pragma : Parse String := do
  let n ← name
  if ← symbolAhead? "(" then
    let value ← parenthesized pragmaValue
    return "PRAGMA " ++ n.render ++ "(" ++ value ++ ")"
  else if ← symbol? "=" then
    let value ← pragmaValue
    return "PRAGMA " ++ n.render ++ " = " ++ value
  else return "PRAGMA " ++ n.render

/-- `ASSERT` behind its keyword. -/
def assertion (inner : Inner) : Parse String := do
  let e ← inner.expr
  let message ← clause? ["AS"] (exprText inner)
  return "ASSERT " ++ e.render ++ message

/-- `RAISERROR` behind its keyword. -/
def raise (inner : Inner) : Parse String := do
  let es ← parenthesized (commaSeparated inner.expr)
  let options ←
    clause? ["WITH"] (commaText <$> commaSeparated (oneOf ["LOG", "NOWAIT", "SETERROR"]))
  -- A message, its severity and its state; anything else is put in the message.
  if es.length < 3 then fail
  else return "RAISERROR(" ++ exprsText es ++ ")" ++ options

/-- The query that a table in memory is filled from, if the tokens do not end here. -/
def cachedRows (inner : Inner) : Parse String := do
  match ← peek? with
  | none => return ""
  | some (.word ..) =>
    let announced ← words? ["AS"]
    let q ← inner.query
    return announced ++ " " ++ q
  | some _ => fail

/-- `CACHE` behind its keyword. -/
def cache (inner : Inner) : Parse String := do
  let flag ← if ← ahead? "TABLE" then pure "" else (· ++ " ") <$> nameText
  keyword "TABLE"
  let n ← name
  let os ← namedOptions inner ["OPTIONS"]
  let rows ← cachedRows inner
  return "CACHE " ++ flag ++ "TABLE " ++ n.render ++
    (if os.isEmpty then "" else " OPTIONS(" ++ commaText os ++ ")") ++ rows

/-- `UNCACHE` behind its keyword. -/
def uncache : Parse String := do
  keyword "TABLE"
  let conditional ← ifThere?
  let n ← name
  return "UNCACHE TABLE" ++ conditional ++ " " ++ n.render

/-- What is done to the partitions of a table that is checked; nothing need be said. -/
def repairedPartitions : Parse String := do
  let action ← oneOf? ["ADD", "DROP", "SYNC"]
  keyword "PARTITIONS"
  return textBehind " " (action.map (· ++ " PARTITIONS"))

/-- `MSCK` behind its keyword. -/
def repair : Parse String := do
  let repairs ← words? ["REPAIR"]
  keyword "TABLE"
  let n ← name
  let partitions ← optional? repairedPartitions
  return "MSCK" ++ repairs ++ " TABLE " ++ n.render ++ partitions.getD ""

end ChangeFeed.Sql.Parse

import ChangeFeed.Sql.Parse.Source

/-!
# SQL: Reading statements about rows

`INSERT`, `UPDATE`, `DELETE`, `MERGE`, and the copying of rows to files and from them.
-/

namespace ChangeFeed.Sql.Parse

/-! ## Values and assignments -/

/-- A row of values, and whether the keyword stands before it. -/
def valuesRow (inner : Inner) : Parse (Bool × String) := do
  let explicit ← keyword? "ROW"
  symbol "("
  if ← symbol? ")" then return (explicit, "()")
  let es ← exprListText inner
  symbol ")"
  return (explicit, "(" ++ es ++ ")")

def values (inner : Inner) : Parse String := do
  let rows ← commaSeparated (valuesRow inner)
  let explicit := rows.any Prod.fst
  return "VALUES " ++ commaText (rows.map fun row => (if explicit then "ROW" else "") ++ row.2)

def assignment (inner : Inner) : Parse String := do
  let target ←
    if ← symbolAhead? "(" then do
      let ns ← parenthesized names
      pure ("(" ++ namesText ns ++ ")")
    else nameText
  symbol "="
  let e ← inner.expr
  return target ++ " = " ++ e.render

def assignments (inner : Inner) : Parse String :=
  commaText <$> commaSeparated (assignment inner)

/-- Columns in parentheses, of which there may be none. -/
def anyColumns? : Parse (List Ident) := do
  if ← symbol? "(" then
    if ← symbol? ")" then return []
    let cs ← commaSeparated ident
    symbol ")"
    return cs
  else return []

/-- What to do with a row that is in conflict with another one, said in front. -/
def conflictClause? : Parse String := do
  let found ← phrase? [["OR", "REPLACE"], ["OR", "ROLLBACK"], ["OR", "ABORT"], ["OR", "FAIL"],
    ["OR", "IGNORE"]]
  if found.isEmpty then
    if ← keyword? "REPLACE" then return " OR REPLACE" else return ""
  else return found

/-! ## Inserting -/

/-- A query in parentheses is ahead. -/
def queryAhead? : Parse Bool := fun ts =>
  match ts with
  | .symbol "(" :: t :: _ => .ok (t.isKeyword "SELECT", ts)
  | _ => .ok (false, ts)

/-- The columns that are inserted, and the partition that they go to. -/
def insertedColumns (inner : Inner) : Parse String := do
  if ← queryAhead? then return ""
  else
    let cs ← anyColumns?
    let partition ←
      if ← keyword? "PARTITION" then do
        let es ← nestedListText inner
        pure ("PARTITION " ++ es ++ " ")
      else pure ""
    return (if cs.isEmpty then "" else columnsText cs ++ " ") ++ partition

/-- The rows that an `INSERT` takes, and the columns that they are for. -/
def insertedRows (inner : Inner) : Parse String := do
  if ← keywords? ["DEFAULT", "VALUES"] then return "DEFAULT VALUES"
  else
    let cs ← insertedColumns inner
    let rows ← if ← keyword? "SET" then ("SET " ++ ·) <$> assignments inner else inner.query
    return cs ++ rows

/-- Names for the row that is inserted and for its columns. -/
def rowAlias? : Parse String := do
  if ← keyword? "AS" then
    let n ← name
    let cs ← columns?
    return " AS " ++ n.render ++ someColumnsText cs
  else return ""

/-- What to do with a row that is in conflict with another one, said behind. -/
def conflictAction (inner : Inner) : Parse String := do
  let target ←
    if ← keywords? ["ON", "CONSTRAINT"] then (" ON CONSTRAINT " ++ ·) <$> nameText
    else columnsText <$> columns?
  keyword "DO"
  if ← keyword? "NOTHING" then return " ON CONFLICT" ++ target ++ " DO NOTHING"
  else
    keywords ["UPDATE", "SET"]
    let changes ← assignments inner
    let condition ← condition? inner
    return " ON CONFLICT" ++ target ++ " DO UPDATE SET " ++ changes ++ condition

def onInsert? (inner : Inner) : Parse String := do
  if ← keyword? "ON" then
    if ← keyword? "CONFLICT" then conflictAction inner
    else
      keywords ["DUPLICATE", "KEY", "UPDATE"]
      let changes ← assignments inner
      return " ON DUPLICATE KEY UPDATE " ++ changes
  else return ""

/-- The formats of the files that a table is kept in. -/
def fileFormats : List String :=
  ["AVRO", "JSONFILE", "ORC", "PARQUET", "RCFILE", "SEQUENCEFILE", "TEXTFILE"]

/-- Rows written to a directory, behind its keyword. -/
def directoryTail (inner : Inner) : Parse String := do
  let path ← literalText
  let format ← clause? ["STORED", "AS"] (oneOf fileFormats)
  let q ← inner.query
  return " DIRECTORY " ++ plainQuoted path ++ format ++ " " ++ q

/-- Rows inserted in a table, from its name on. -/
def insertTail (inner : Inner) (front : String) : Parse String := do
  let n ← name
  let rows ← insertedRows inner
  let row ← rowAlias?
  let changes ← onInsert? inner
  let back ← returning? inner
  return front ++ " " ++ n.render ++ " " ++ rows ++ row ++ changes ++ back

/-- `INSERT` or `REPLACE` behind its keyword. -/
def insert (inner : Inner) (k : String) : Parse String := do
  let conflict ← conflictClause?
  let priority ← phrase? [["LOW_PRIORITY"], ["DELAYED"], ["HIGH_PRIORITY"]]
  let words ← wordsAhead ["IGNORE", "OVERWRITE", "INTO"]
  let nearby ← words? ["LOCAL"]
  if ← keyword? "DIRECTORY" then
    let tail ← directoryTail inner
    return "INSERT" ++ words ++ nearby ++ tail
  else
    let table ← words? ["TABLE"]
    if conflict.isEmpty then insertTail inner (k ++ priority ++ words ++ table)
    else insertTail inner ("INSERT" ++ conflict ++ " INTO")

/-! ## Changing and deleting -/

/-- `UPDATE` behind its keyword. Sources stand in front of the assignments; behind them, only the
word that announces sources is taken. -/
def update (inner : Inner) : Parse String := do
  let conflict ← conflictClause?
  let target ← joined inner
  let origin ← clause? ["FROM"] (joined inner)
  keyword "SET"
  let changes ← assignments inner
  if origin.isEmpty then
    let _ ← keyword? "FROM"
  let condition ← condition? inner
  let back ← returning? inner
  return "UPDATE" ++ conflict ++ " " ++ target ++ origin ++ " SET " ++ changes ++ condition ++ back

/-- `DELETE` behind its keyword. -/
def delete (inner : Inner) : Parse String := do
  let targets ←
    if ← keyword? "FROM" then pure ""
    else do
      let ns ← names
      keyword "FROM"
      pure (namesText ns ++ " ")
  let origin ← sources inner
  let others ← clause? ["USING"] (sources inner)
  let condition ← condition? inner
  let back ← returning? inner
  let order ← clause? ["ORDER", "BY"] (sortKeysText inner)
  let limit ← if ← keyword? "LIMIT" then limitText inner else pure none
  return "DELETE " ++ targets ++ "FROM " ++ origin ++ others ++ condition ++ back ++ order ++
    textBehind " LIMIT " limit

/-! ## Merging -/

/-- Whether a merged row has a match; if it has none, on which side it stands. -/
def matchKind : Parse (List String) := do
  if ← keyword? "NOT" then
    keyword "MATCHED"
    let side ← firstOf? [["BY", "SOURCE"], ["BY", "TARGET"]]
    return ["NOT", "MATCHED"] ++ side.getD []
  else
    keyword "MATCHED"
    return ["MATCHED"]

/-- A row can be inserted if it has no match on the side of the target. -/
def insertable (kind : List String) : Bool :=
  kind = ["NOT", "MATCHED"] || kind = ["NOT", "MATCHED", "BY", "TARGET"]

/-- What is done to a merged row. -/
def mergeAction (inner : Inner) (kind : List String) : Parse String := do
  if insertable kind then
    keyword "INSERT"
    let cs ← anyColumns?
    keyword "VALUES"
    let rows ← values inner
    return "INSERT " ++ (if cs.isEmpty then "" else columnsText cs ++ " ") ++ rows
  else if ← keyword? "UPDATE" then
    keyword "SET"
    let changes ← assignments inner
    return "UPDATE SET " ++ changes
  else
    keyword "DELETE"
    return "DELETE"

/-- A case of a merge, up to the end of the statement. -/
def mergeCase? (inner : Inner) : Parse (Option String) := do
  match ← peek? with
  | none | some (.symbol ";") => return none
  | some _ =>
    keyword "WHEN"
    let kind ← matchKind
    let condition ← clause? ["AND"] (exprText inner)
    keyword "THEN"
    let action ← mergeAction inner kind
    return some ("WHEN " ++ phraseText kind ++ condition ++ " THEN " ++ action)

/-- `MERGE` behind its keyword. -/
def merge (inner : Inner) : Parse String := do
  let into ← words? ["INTO"]
  let target ← singleSource inner
  keyword "USING"
  let origin ← singleSource inner
  keyword "ON"
  let e ← inner.expr
  let cases ← many (mergeCase? inner)
  return "MERGE" ++ into ++ " " ++ target ++ " USING " ++ origin ++ " ON " ++ e.render ++ " " ++
    phraseText cases

/-! ## Copying -/

/-- A switch, on unless it is said to be off. -/
def switch (k : String) : Parse String := do
  match ← oneOf? ["TRUE", "FALSE"] with
  | some "FALSE" => return k ++ " FALSE"
  | _ => return k

def copyOption : Parse String := do
  let k ← oneOf ["FORMAT", "FREEZE", "DELIMITER", "NULL", "HEADER", "QUOTE", "ESCAPE",
    "FORCE_QUOTE", "FORCE_NOT_NULL", "FORCE_NULL", "ENCODING"]
  match k with
  | "FORMAT" => ("FORMAT " ++ ·) <$> identText
  | "FREEZE" | "HEADER" => switch k
  | "DELIMITER" | "QUOTE" | "ESCAPE" => (k ++ " " ++ plainQuoted ·) <$> singleCharacter
  | "NULL" | "ENCODING" => (k ++ " " ++ enquote '\'' ·) <$> literalText
  | _ => (k ++ " " ++ columnsText ·) <$> columns

/-- A character behind its keyword, `AS` between them or not. -/
def markedCharacter (k : String) : Parse String := do
  let _ ← keyword? "AS"
  let c ← singleCharacter
  return k ++ " " ++ plainQuoted c

/-- An option for files of values between commas, in the older form. -/
def csvOption : Parse String := do
  match ← oneOf ["HEADER", "QUOTE", "ESCAPE", "FORCE"] with
  | "HEADER" => return "HEADER"
  | "FORCE" =>
    let purpose ← phrase [["NOT", "NULL"], ["QUOTE"]]
    let is ← commaSeparated ident
    return "FORCE " ++ purpose ++ " " ++ identsText is
  | k => markedCharacter k

/-- An option of a copy in the older form. -/
def oldCopyOption : Parse String := do
  match ← oneOf ["BINARY", "DELIMITER", "NULL", "CSV"] with
  | "BINARY" => return "BINARY"
  | "DELIMITER" => markedCharacter "DELIMITER"
  | "NULL" =>
    let _ ← keyword? "AS"
    let text ← literalText
    return "NULL " ++ enquote '\'' text
  | _ =>
    let os ← many (optional? csvOption)
    return phraseText ("CSV" :: os)

/-- The end of the rows that follow a copy from the input; a mark for it may be missing. The rows
themselves are not kept. -/
def skipCopiedRows : (limit : Nat) → Parse Unit
  | 0 => return ()
  | limit + 1 => do
    match ← next? with
    | none => return ()
    | some (.symbol "\\") =>
      if ← symbol? "." then return ()
      else
        let _ ← next?
        skipCopiedRows limit
    | some _ => skipCopiedRows limit

/-- `COPY` behind its keyword. A query can be copied to a place, not from one. -/
def copy (inner : Inner) : Parse String := do
  let isQuery ← symbolAhead? "("
  let origin ←
    if isQuery then do
      let q ← parenthesized inner.query
      pure ("(" ++ q ++ ")")
    else do
      let n ← name
      let cs ← columns?
      pure (n.render ++ someColumnsText cs)
  let direction ← if isQuery then oneOf ["TO"] else oneOf ["FROM", "TO"]
  let standard ← oneOf? ["STDIN", "STDOUT"]
  let place ←
    match standard with
    | some k => pure k
    | none => do
      let program ← keyword? "PROGRAM"
      let text ← literalText
      pure ((if program then "PROGRAM " else "") ++ enquote '\'' text)
  let _ ← keyword? "WITH"
  let options ←
    if ← symbolAhead? "(" then do
      let os ← parenthesized (commaSeparated copyOption)
      pure (" (" ++ commaText os ++ ")")
    else pure ""
  let old ← many (optional? oldCopyOption)
  if standard = some "STDIN" then
    symbol ";"
    skipCopiedRows (← remaining)
  return "COPY " ++ origin ++ " " ++ direction ++ " " ++ place ++ options ++
    "".intercalate (old.map (" " ++ ·))

/-- `UNLOAD` behind its keyword. -/
def unload (inner : Inner) : Parse String := do
  let q ← parenthesized inner.query
  keyword "TO"
  let i ← ident
  let os ← namedOptions inner ["WITH"]
  return "UNLOAD(" ++ q ++ ") TO " ++ i.render ++
    if os.isEmpty then "" else " WITH (" ++ commaText os ++ ")"

end ChangeFeed.Sql.Parse

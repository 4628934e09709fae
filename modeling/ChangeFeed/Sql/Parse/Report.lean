import ChangeFeed.Sql.Parse.Source

/-!
# SQL: Reading requests for reports

`SHOW`, `EXPLAIN` and `ANALYZE`.
-/

namespace ChangeFeed.Sql.Parse

/-! ## Showing -/

/-- Which of the objects are shown. The pattern behind `ILIKE` is kept without its quotes. -/
def showFilter? (inner : Inner) : Parse String := do
  if ← keyword? "LIKE" then (" LIKE " ++ enquote '\'' ·) <$> literalText
  else if ← keyword? "ILIKE" then
    let text ← literalText
    return " ILIKE " ++ String.ofList (doubleQuotes '\'' (Char.ofNat 0) text.toList)
  else if ← keyword? "WHERE" then (" WHERE " ++ ·) <$> exprText inner
  else
    let text ← optional? literalText
    return textBehind " " (text.map (enquote '\''))

/-- What holds the objects that are shown. A database and a schema may stand without their names if
a bound on the list follows. -/
def showScope? : Parse String := do
  match ← oneOf? ["FROM", "IN"] with
  | none => return ""
  | some k =>
    match ← oneOf? ["ACCOUNT", "DATABASE", "SCHEMA", "TABLE", "VIEW"] with
    | some kind =>
      let starts ← fun ts => .ok (startsWith ["STARTS", "WITH"] ts, ts)
      let bounded ← ahead? "LIMIT"
      let unnamed := (kind = "DATABASE" || kind = "SCHEMA") && (starts || bounded)
      let n ← if unnamed then pure none else optional? name
      return " " ++ k ++ " " ++ kind ++ textBehind " " (n.map Name.render)
    | none =>
      let n ← name
      if (← oneOf? ["FROM", "IN"]).isSome then
        let i ← ident
        return " " ++ k ++ " " ++ i.render ++ "." ++ n.render
      else return " " ++ k ++ " " ++ n.render

/-- Where the objects that are shown are found, which of them, and how many. -/
def showOptions (inner : Inner) : Parse String := do
  let scope ← showScope?
  let filter ← showFilter? inner
  let starts ← clause? ["STARTS", "WITH"] (Literal.render <$> literal)
  let limit ← if ← keyword? "LIMIT" then limitText inner else pure none
  let origin ← clause? ["FROM"] (Literal.render <$> literal)
  return scope ++ starts ++ textBehind " LIMIT " limit ++ origin ++ filter

/-- The words in front of what is shown. -/
structure ShowWords where
  terse : String
  extended : String
  full : String
  session : String
  everywhere : String
  external : String

/-- The words of a setting that is shown: all the words up to an equals sign, whatever stands
between them. -/
def shownSetting : Parse String := fun ts =>
  let taken := ts.takeWhile fun t => t != .symbol "="
  let is := taken.filterMap fun
    | .word text quoted => some (Ident.mk text (if quoted then some '\x60' else none)).render
    | _ => none
  .ok ("".intercalate (is.map (" " ++ ·)), ts.dropWhile fun t => t != .symbol "=")

/-- Lists of objects. -/
def shownLists (inner : Inner) (w : ShowWords) : List (List String × Parse String) :=
  let columns := (w.extended ++ w.full ++ " COLUMNS" ++ ·) <$> showOptions inner
  [(["COLUMNS"], columns), (["FIELDS"], columns),
   (["TABLES"], do
     let history ← if w.external.isEmpty then words? ["HISTORY"] else pure ""
     let options ← showOptions inner
     return w.terse ++ w.extended ++ w.full ++ w.external ++ " TABLES" ++ history ++ options),
   (["MATERIALIZED", "VIEWS"], (w.terse ++ " MATERIALIZED VIEWS" ++ ·) <$> showOptions inner),
   (["VIEWS"], (w.terse ++ " VIEWS" ++ ·) <$> showOptions inner),
   (["FUNCTIONS"], (" FUNCTIONS" ++ ·) <$> showFilter? inner)]

/-- The definition of an object. -/
def shownDefinition : Parse String := do
  let kind ← oneOf ["TABLE", "TRIGGER", "FUNCTION", "PROCEDURE", "EVENT", "VIEW"]
  let n ← name
  return " CREATE " ++ kind ++ " " ++ n.render

/-- Databases or schemas. -/
def shownDatabases (inner : Inner) (terse kind : String) : Parse String := do
  let history ← words? ["HISTORY"]
  let options ← showOptions inner
  return terse ++ " " ++ kind ++ history ++ options

/-- What else is shown; a setting, if it is nothing of the list. -/
def shownOthers (inner : Inner) (w : ShowWords) : List (List String × Parse String) :=
  let values := fun kind =>
    (w.everywhere ++ w.session ++ " " ++ kind ++ ·) <$> showFilter? inner
  [(["CREATE"], shownDefinition),
   (["COLLATION"], (" COLLATION" ++ ·) <$> showFilter? inner),
   (["VARIABLES"], values "VARIABLES"), (["STATUS"], values "STATUS"),
   (["DATABASES"], shownDatabases inner w.terse "DATABASES"),
   (["SCHEMAS"], shownDatabases inner w.terse "SCHEMAS"), ([], shownSetting)]

/-- `SHOW` behind its keyword. -/
def showObjects (inner : Inner) : Parse String := do
  let terse ← words? ["TERSE"]
  let extended ← words? ["EXTENDED"]
  let full ← words? ["FULL"]
  let session ← words? ["SESSION"]
  let everywhere ← words? ["GLOBAL"]
  let external ← words? ["EXTERNAL"]
  let w : ShowWords := ⟨terse, extended, full, session, everywhere, external⟩
  -- Only lists are shown in a full or in an extended form.
  let others := if extended.isEmpty && full.isEmpty then shownOthers inner w else []
  ("SHOW" ++ ·) <$> behindFirst (shownLists inner w ++ others)

/-! ## Explaining -/

/-- How a statement is explained. -/
def explanation : Parse String := do
  match ← firstOf? [["QUERY", "PLAN"], ["ESTIMATE"]] with
  | some ks => return " " ++ phraseText ks
  | none =>
    let analyzed ← words? ["ANALYZE"]
    let verbose ← words? ["VERBOSE"]
    let format ← clause? ["FORMAT"] (oneOf ["TEXT", "GRAPHVIZ", "JSON"])
    return analyzed ++ verbose ++ format

/-- `EXPLAIN` or another word for it, behind the word. What is no statement is the name of a table;
an explanation itself cannot be explained. -/
def explain (inner : Inner) (k : String) : Parse String := do
  let manner ← explanation
  let again ← fun ts => .ok (["EXPLAIN", "DESC", "DESCRIBE"].any (startsWith [·] ts), ts)
  match ← optional? inner.statement with
  | some s => if again then fail else return k ++ manner ++ " " ++ s
  | none =>
    let form ← phrase? [["EXTENDED"], ["FORMATTED"]]
    let n ← name
    return k ++ form ++ " " ++ n.render

/-! ## Analyzing -/

/-- What is gathered about a table. -/
structure Analysis where
  partitions : String
  statistics : Bool
  skips : Bool
  caches : Bool
  columns : Option (List Ident)

/-- A request for something to be gathered, if one is ahead. -/
def analysisStep? (inner : Inner) (a : Analysis) : Parse (Option Analysis) := do
  match ← oneOf? ["PARTITION", "NOSCAN", "FOR", "CACHE", "COMPUTE"] with
  | none => return none
  | some "PARTITION" =>
    let es ← nestedListText inner
    return some { a with partitions := " PARTITION " ++ es }
  | some "NOSCAN" => return some { a with skips := true }
  | some "FOR" =>
    keyword "COLUMNS"
    let is ← optional? (commaSeparated ident)
    return some { a with columns := some (is.getD []) }
  | some "CACHE" =>
    keyword "METADATA"
    return some { a with caches := true }
  | some _ =>
    keyword "STATISTICS"
    return some { a with statistics := true }

def Analysis.text (a : Analysis) : String :=
  a.partitions ++ (if a.statistics then " COMPUTE STATISTICS" else "") ++
    (if a.skips then " NOSCAN" else "") ++ (if a.caches then " CACHE METADATA" else "") ++
    match a.columns with
    | some [] => " FOR COLUMNS"
    | some is => " FOR COLUMNS " ++ identsText is
    | none => ""

/-- `ANALYZE` behind its keyword. -/
def analyze (inner : Inner) : Parse String := do
  keyword "TABLE"
  let n ← name
  let a ← extend (analysisStep? inner) ⟨"", false, false, false, none⟩
  return "ANALYZE TABLE " ++ n.render ++ a.text

end ChangeFeed.Sql.Parse

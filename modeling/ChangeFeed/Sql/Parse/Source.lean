import ChangeFeed.Sql.Parse.Clause

/-!
# SQL: Reading sources of rows

What a query or a statement takes rows from, and what it gives back of them. Joins are kept as
text; a join inside parentheses is told apart, as a single table must not stand in parentheses.
-/

namespace ChangeFeed.Sql.Parse

/-! ## Aliases -/

/-- An alias, which must not be one of the reserved words unless `AS` stands before it. -/
def alias? (reserved : List String) : Parse (Option Ident) := do
  let announced ← keyword? "AS"
  match ← peek? with
  | some (.word text quoted) =>
    if announced || quoted || !(reserved.contains (Text.uppercase text)) then
      let _ ← next
      return some ⟨text, if quoted then some '\x60' else none⟩
    else return none
  | some (.single _) | some (.double _) => some <$> ident
  | _ => if announced then fail else return none

def aliasText (a : Option Ident) : String := textBehind " AS " (a.map Ident.render)

/-- A name for a column of a source, with its type or without. -/
def aliasColumn : Parse String := do
  let i ← ident
  let t ← optional? dataType
  return i.render ++ textBehind " " (t.map DataType.render)

/-- The text of a source's alias, with names for its columns. -/
def tableAlias? : Parse String := do
  match ← alias? (reservedTableAliases ++ ["USE", "IGNORE", "FORCE"]) with
  | some i =>
    if ← symbolAhead? "(" then
      let cs ← parenthesized (commaSeparated aliasColumn)
      return " AS " ++ i.render ++ " (" ++ commaText cs ++ ")"
    else return " AS " ++ i.render
  | none => return ""

/-! ## Tables and functions -/

/-- The arguments of a table function behind the opening parenthesis. -/
def sourceArgumentsTail (inner : Inner) : Parse String := do
  if ← symbol? ")" then return "()"
  let args ← commaSeparated (argument inner)
  symbol ")"
  return "(" ++ commaText (args.map Piece.renderAll) ++ ")"

/-- The arguments of a table function, or nothing. -/
def sourceArguments? (inner : Inner) : Parse String := do
  if ← symbol? "(" then sourceArgumentsTail inner else return ""

/-- Which indexes a table is read by, or not read by. -/
def indexHint? : Parse (Option String) := do
  match ← oneOf? ["USE", "IGNORE", "FORCE"] with
  | some k =>
    let kind ← oneOf ["INDEX", "KEY"]
    let purpose ← clause? ["FOR"] (phrase [["JOIN"], ["ORDER", "BY"], ["GROUP", "BY"]])
    symbol "("
    let is ← if ← symbolAhead? ")" then pure [] else commaSeparated ident
    symbol ")"
    return some (" " ++ k ++ " " ++ kind ++ purpose ++ " " ++ columnsText is)
  | none => return none

/-- Hints to the reader of a table. Hints on indexes that do not fit are left to what follows. -/
def tableHints (inner : Inner) : Parse String := do
  let indexes ← optional? (many indexHint?)
  let others ←
    if ← openAhead? "WITH" then clause? ["WITH"] (nestedListText inner) else pure ""
  return "".intercalate (indexes.getD []) ++ others

def tableSource (inner : Inner) : Parse String := do
  let n ← name
  let parts ←
    if ← keyword? "PARTITION" then do
      let ps ← columns
      pure (" PARTITION " ++ columnsText ps)
    else pure ""
  let args ← sourceArguments? inner
  let numbered ← words? ["WITH", "ORDINALITY"]
  let a ← tableAlias?
  let hints ← tableHints inner
  return n.render ++ args ++ parts ++ numbered ++ a ++ hints

/-- A query in parentheses as a source. -/
def derived (inner : Inner) (lateral : Bool) : Parse String := do
  let q ← parenthesized inner.query
  let a ← tableAlias?
  return (if lateral then "LATERAL (" else "(") ++ q ++ ")" ++ a

/-- What follows `LATERAL`: a query, or a call of a function. -/
def lateralSource (inner : Inner) : Parse String := do
  if ← symbolAhead? "(" then derived inner true
  else
    let n ← name
    symbol "("
    let args ← sourceArgumentsTail inner
    let a ← tableAlias?
    return "LATERAL " ++ n.render ++ args ++ a

/-! ## Tables made from documents -/

/-- What stands for a value that is missing or faulty. -/
def documentDefault? : Parse (Option String) := do
  match ← oneOf? ["NULL", "ERROR", "DEFAULT"] with
  | some "DEFAULT" =>
    let l ← literal
    return some ("DEFAULT " ++ l.render)
  | found => return found

/-- The fault that a substitute is for, and its text. -/
def documentFallback? : Parse (Option (String × String)) := do
  match ← documentDefault? with
  | some text =>
    keyword "ON"
    let fault ← oneOf ["EMPTY", "ERROR"]
    return some (fault, " " ++ text ++ " ON " ++ fault)
  | none => return none

/-- A column of a table made from a document; `limit` bounds how deeply columns are nested. -/
def documentColumn : (limit : Nat) → Parse String
  | 0 => fail
  | limit + 1 => do
    if ← keyword? "NESTED" then
      let _ ← keyword? "PATH"
      let path ← literal
      keyword "COLUMNS"
      let cs ← parenthesized (commaSeparated (documentColumn limit))
      return "NESTED PATH " ++ path.render ++ " COLUMNS (" ++ commaText cs ++ ")"
    else
      let i ← ident
      if ← keywords? ["FOR", "ORDINALITY"] then return i.render ++ " FOR ORDINALITY"
      else
        let t ← dataType
        let tested ← words? ["EXISTS"]
        keyword "PATH"
        let path ← literal
        let fallbacks ← many documentFallback?
        -- Only the last substitute for each fault counts.
        let behind := fun fault => textBehind "" (fallbacks.reverse.lookup fault)
        return i.render ++ " " ++ t.render ++ tested ++ " PATH " ++ path.render ++
          behind "EMPTY" ++ behind "ERROR"

/-- A table made from a document, behind its keyword. -/
def documentSource (inner : Inner) : Parse String := do
  let limit ← remaining
  symbol "("
  let e ← inner.expr
  symbol ","
  let path ← literal
  keyword "COLUMNS"
  let cs ← parenthesized (commaSeparated (documentColumn limit))
  symbol ")"
  let a ← tableAlias?
  return "JSON_TABLE(" ++ e.render ++ ", " ++ path.render ++ " COLUMNS(" ++ commaText cs ++ "))" ++
    a

/-! ## Joins -/

/-- A source, and whether it is a join in parentheses. -/
structure Source where
  text : String
  isJoin : Bool

/-- How a further source is joined to the ones before. -/
structure Join where
  /-- The words in front of the source, in canonical form. -/
  text : String
  /-- Further joins right behind the source belong to it. -/
  nests : Bool
  /-- A condition may follow. -/
  isConditional : Bool

def joinCondition (inner : Inner) : Parse String := do
  if ← keyword? "ON" then
    let e ← inner.expr
    return " ON " ++ e.render
  else if ← keyword? "USING" then
    let ns ← parenthesized names
    return " USING(" ++ namesText ns ++ ")"
  else return ""

/-- The words of a join on one side. -/
def sidedJoin (side : String) : Parse String := do
  let half ← oneOf? ["OUTER", "SEMI", "ANTI"]
  keyword "JOIN"
  return match half with
    | some "OUTER" | none => side ++ " JOIN"
    | some k => side ++ " " ++ k ++ " JOIN"

/-- The words of a join that carries a condition, in canonical form. -/
def conditionalJoin? : Parse (Option String) := do
  match ← oneOf? ["INNER", "JOIN", "LEFT", "RIGHT", "FULL", "SEMI", "ANTI"] with
  | none => return none
  | some "JOIN" => return some "JOIN"
  | some "INNER" =>
    keyword "JOIN"
    return some "JOIN"
  | some "FULL" =>
    let _ ← keyword? "OUTER"
    keyword "JOIN"
    return some "FULL JOIN"
  | some "SEMI" =>
    keyword "JOIN"
    return some "SEMI JOIN"
  | some "ANTI" =>
    keyword "JOIN"
    return some "ANTI JOIN"
  | some side => some <$> sidedJoin side

/-- The words that join a further source, if they are ahead. -/
def joinWords? : Parse (Option Join) := do
  let everywhere ← words? ["GLOBAL"]
  if ← keyword? "CROSS" then
    let k ← oneOf ["JOIN", "APPLY"]
    return some ⟨everywhere ++ " CROSS " ++ k ++ " ", false, false⟩
  else if ← keyword? "OUTER" then
    keyword "APPLY"
    return some ⟨everywhere ++ " OUTER APPLY ", false, false⟩
  else
    let natural ← keyword? "NATURAL"
    match ← conditionalJoin? with
    | some words =>
      if natural then return some ⟨everywhere ++ " NATURAL " ++ words ++ " ", true, false⟩
      else return some ⟨everywhere ++ " " ++ words ++ " ", true, true⟩
    | none => if natural then fail else return none

/-- A join is ahead that belongs to the source right in front of it. -/
def nestedJoinAhead? : Parse Bool := fun ts =>
  .ok (["JOIN", "INNER", "LEFT", "RIGHT", "FULL"].any (startsWith [·] ts), ts)

/-- Further sources joined to the ones before; `limit` bounds their number. -/
def joins (inner : Inner) (source : Parse Source) : (limit : Nat) → Parse String
  | 0 => return ""
  | limit + 1 => do
    match ← joinWords? with
    | none => return ""
    | some join =>
      let s ← source
      let nesting ← nestedJoinAhead?
      let nested ← if join.nests && nesting then joins inner source limit else pure ""
      let text := if nested.isEmpty then s.text else "(" ++ s.text ++ nested ++ ")"
      let condition ← if join.isConditional then joinCondition inner else pure ""
      let rest ← joins inner source limit
      return join.text ++ text ++ condition ++ rest

/-- A source; `limit` bounds how deeply joins are nested in parentheses. -/
def source (inner : Inner) : (limit : Nat) → Parse Source
  | 0 => fail
  | limit + 1 => do
    if ← keyword? "LATERAL" then (⟨·, false⟩) <$> lateralSource inner
    else if ← keyword? "TABLE" then
      let e ← nestedText inner
      let a ← tableAlias?
      return ⟨"TABLE" ++ e ++ a, false⟩
    else if ← symbolAhead? "(" then
      match ← optional? (derived inner false) with
      | some s => return ⟨s, false⟩
      | none =>
        symbol "("
        let first ← source inner limit
        let rest ← joins inner (source inner limit) (← remaining)
        if rest.isEmpty && !first.isJoin then fail
        symbol ")"
        let a ← tableAlias?
        return ⟨"(" ++ first.text ++ rest ++ ")" ++ a, true⟩
    else if ← openAhead? "JSON_TABLE" then
      keyword "JSON_TABLE"
      (⟨·, false⟩) <$> documentSource inner
    else (⟨·, false⟩) <$> tableSource inner

/-- A source by itself, without joins. -/
def singleSource (inner : Inner) : Parse String := do
  let s ← source inner (← remaining)
  return s.text

/-- A source and those joined to it. -/
def joined (inner : Inner) : Parse String := do
  let limit ← remaining
  let first ← source inner limit
  let rest ← joins inner (source inner limit) limit
  return first.text ++ rest

def sources (inner : Inner) : Parse String := commaText <$> commaSeparated (joined inner)

/-! ## Selections -/

def selected (inner : Inner) : Parse String := do
  match ← wildcard? with
  | some text => return text
  | none =>
    match ← inner.expr with
    | .column [⟨text, none⟩] =>
      if Text.uppercase text = "FROM" then fail
      else
        let a ← alias? reservedColumnAliases
        return text ++ aliasText a
    | e =>
      let a ← alias? reservedColumnAliases
      return e.render ++ aliasText a

def selection (inner : Inner) : Parse String := commaText <$> commaSeparated (selected inner)

/-- The rows that a statement gives back. -/
def returning? (inner : Inner) : Parse String := clause? ["RETURNING"] (selection inner)

end ChangeFeed.Sql.Parse

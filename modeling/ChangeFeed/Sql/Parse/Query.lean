import ChangeFeed.Sql.Parse.Rows

/-!
# SQL: Reading queries

A query is kept as its canonical text: it only matters as part of a default value, or as something
that a statement ends with. Like expressions, queries are read with the readers for what is nested
inside them.
-/

namespace ChangeFeed.Sql.Parse

/-! ## Selections -/

/-- What a selection says about equal rows. -/
def distinction (inner : Inner) : Parse String := do
  let all ← keyword? "ALL"
  if ← keyword? "DISTINCT" then
    if all then fail
    else if ← keyword? "ON" then
      symbol "("
      let es ← if ← symbolAhead? ")" then pure "" else exprListText inner
      symbol ")"
      return " DISTINCT ON (" ++ es ++ ")"
    else return " DISTINCT"
  else return ""

/-- A bound on the number of rows in front of the columns. -/
def top? (inner : Inner) : Parse String := do
  if ← keyword? "TOP" then
    let n ←
      if ← symbolAhead? "(" then do
        let e ← parenthesized inner.expr
        pure ("(" ++ e.render ++ ")")
      else do
        let n ← whole
        pure (toString n)
    let percent ← keyword? "PERCENT"
    let ties ← keywords? ["WITH", "TIES"]
    return " TOP " ++ n ++ (if percent then " PERCENT" else "") ++ if ties then " WITH TIES" else ""
  else return ""

/-- Where a selection stores its rows. -/
def into? : Parse String := do
  if ← keyword? "INTO" then
    let temporary ← oneOf? ["TEMP", "TEMPORARY"]
    let unlogged ← keyword? "UNLOGGED"
    let table ← keyword? "TABLE"
    let n ← name
    return " INTO" ++ (if temporary.isSome then " TEMPORARY" else "") ++
      (if unlogged then " UNLOGGED" else "") ++ (if table then " TABLE" else "") ++ " " ++ n.render
  else return ""

def namedWindow (inner : Inner) : Parse String := do
  let i ← ident
  keyword "AS"
  symbol "("
  let w ← windowTail inner
  return i.render ++ " AS " ++ Piece.renderAll w

/-- A source of further columns, made from a value of each row. -/
def lateralView? (inner : Inner) : Parse (Option String) := do
  if ← keywords? ["LATERAL", "VIEW"] then
    let outer ← words? ["OUTER"]
    let e ← inner.expr
    let n ← name
    let aliases ← commaSeparated (alias? ["WHERE", "GROUP", "CLUSTER", "HAVING", "LATERAL"])
    let is := aliases.filterMap id
    return some (" LATERAL VIEW" ++ outer ++ " " ++ e.render ++ " " ++ n.render ++
      if is.isEmpty then "" else " AS " ++ identsText is)
  else return none

/-- The groups of a selection. -/
def groups? (inner : Inner) : Parse String :=
  clause? ["GROUP", "BY"] do
    if ← keyword? "ALL" then return "ALL" else exprListText inner

def windows? (inner : Inner) : Parse String :=
  clause? ["WINDOW"] (commaText <$> commaSeparated (namedWindow inner))

/-- Windows and the condition on what ranges over them, in either order. -/
def windowClauses (inner : Inner) : Parse String := do
  let before ← windows? inner
  let qualification ← clause? ["QUALIFY"] (exprText inner)
  let behind ← if before.isEmpty then windows? inner else pure ""
  return before ++ qualification ++ behind

/-- A selection behind its keyword. -/
def selectTail (inner : Inner) : Parse String := do
  let unique ← distinction inner
  let top ← top? inner
  let items ← selection inner
  let into ← into?
  let origin ← clause? ["FROM"] (sources inner)
  let views ← many (lateralView? inner)
  let condition ← condition? inner
  let groups ← groups? inner
  let cluster ← clause? ["CLUSTER", "BY"] (exprListText inner)
  let distribution ← clause? ["DISTRIBUTE", "BY"] (exprListText inner)
  let order ← clause? ["SORT", "BY"] (exprListText inner)
  let having ← clause? ["HAVING"] (exprText inner)
  let windows ← windowClauses inner
  return "SELECT" ++ unique ++ top ++ " " ++ items ++ into ++ origin ++ "".intercalate views ++
    condition ++ groups ++ cluster ++ distribution ++ order ++ having ++ windows

/-! ## Queries -/

/-- All rows of a table, behind the keyword. Three tokens are taken in any case, though a plain name
is only one of them. -/
def tableTail : Parse String := do
  let first ← next
  let second ← next?
  let third ← next?
  match first, second, third with
  | .word schema _, some (.symbol "."), some (.word table _) =>
    return "TABLE " ++ schema ++ "." ++ table
  | _, some (.symbol "."), _ => fail
  | .word table _, _, _ => return "TABLE " ++ table
  | _, _, _ => fail

def queryOperand (inner : Inner) : Parse String := do
  if ← keyword? "SELECT" then selectTail inner
  else if ← symbolAhead? "(" then
    let q ← parenthesized inner.query
    return "(" ++ q ++ ")"
  else if ← keyword? "VALUES" then values inner
  else if ← keyword? "TABLE" then tableTail
  else fail

def setOperation? (inner : Inner) : Parse (Option String) := do
  match ← oneOf? ["UNION", "EXCEPT", "INTERSECT", "MINUS"] with
  | some k =>
    let quantifier ← phrase? [["DISTINCT", "BY", "NAME"], ["BY", "NAME"], ["ALL", "BY", "NAME"],
      ["ALL"], ["DISTINCT"]]
    let right ← queryOperand inner
    return some (" " ++ k ++ quantifier ++ " " ++ right)
  | none => return none

def namedQuery (inner : Inner) : Parse String := do
  let i ← ident
  let cs ←
    if ← symbolAhead? "(" then parenthesized (commaSeparated aliasColumn) else pure []
  keyword "AS"
  let q ← parenthesized inner.query
  let origin ← clause? ["FROM"] identText
  return i.render ++ (if cs.isEmpty then "" else " (" ++ commaText cs ++ ")") ++
    " AS (" ++ q ++ ")" ++ origin

/-- Named queries in front of another one. -/
def with? (inner : Inner) : Parse String := do
  if ← keyword? "WITH" then
    let recursive ← keyword? "RECURSIVE"
    let queries ← commaSeparated (namedQuery inner)
    return "WITH " ++ (if recursive then "RECURSIVE " else "") ++ commaText queries ++ " "
  else return ""

/-- The number of rows that a query is limited to, and the number that it skips. -/
structure RowRange where
  limit : Option String
  offset : Option String

def offsetText (inner : Inner) : Parse String := do
  let n ← exprText inner
  let unit ← oneOf? ["ROW", "ROWS"]
  return n ++ textBehind " " unit

/-- One round of reading a limit and an offset. -/
def rowRangeStep (inner : Inner) (r : RowRange) : Parse RowRange := do
  let limit ←
    if r.limit.isNone then
      if ← keyword? "LIMIT" then limitText inner else pure none
    else pure r.limit
  let offset ←
    if r.offset.isNone then after? "OFFSET" (offsetText inner) else pure r.offset
  if limit.isSome && offset.isNone then
    if ← symbol? "," then
      let count ← exprText inner
      return ⟨some count, limit⟩
    else return ⟨limit, offset⟩
  else return ⟨limit, offset⟩

def fetch? : Parse String := do
  if ← keyword? "FETCH" then
    let _ ← oneOf ["FIRST", "NEXT"]
    let quantity ←
      match ← oneOf? ["ROW", "ROWS"] with
      | some _ => pure ""
      | none => do
        let l ← literal
        let percent ← keyword? "PERCENT"
        let _ ← oneOf ["ROW", "ROWS"]
        pure (" " ++ l.render ++ if percent then " PERCENT" else "")
    let ties ←
      if ← keyword? "ONLY" then pure " ROWS ONLY"
      else do
        keywords ["WITH", "TIES"]
        pure " ROWS WITH TIES"
    return " FETCH FIRST" ++ quantity ++ ties
  else return ""

/-- How a query locks its rows. -/
def lock? : Parse (Option String) := do
  if ← keyword? "FOR" then
    let mode ← oneOf ["UPDATE", "SHARE"]
    let target ← after? "OF" name
    let wait ←
      if ← keyword? "NOWAIT" then pure " NOWAIT"
      else if ← keywords? ["SKIP", "LOCKED"] then pure " SKIP LOCKED"
      else pure ""
    return some (" FOR " ++ mode ++ textBehind " OF " (target.map Name.render) ++ wait)
  else return none

/-- Selected rows, in their order and within their bounds. -/
def orderedRows (inner : Inner) : Parse String := do
  let first ← queryOperand inner
  let others ← many (setOperation? inner)
  let order ← clause? ["ORDER", "BY"] (sortKeysText inner)
  let r ← rowRangeStep inner ⟨none, none⟩
  let r ← rowRangeStep inner r
  let fetched ← fetch?
  let locks ← many lock?
  return first ++ "".intercalate others ++ order ++ textBehind " LIMIT " r.limit ++
    textBehind " OFFSET " r.offset ++ fetched ++ "".intercalate locks

/-- A query. Named queries may also stand in front of rows that are inserted or changed. -/
def query (inner : Inner) : Parse String := do
  let named ← with? inner
  let body ←
    if ← keyword? "INSERT" then insert inner "INSERT"
    else if ← keyword? "UPDATE" then update inner
    else orderedRows inner
  return named ++ body

end ChangeFeed.Sql.Parse

import ChangeFeed.Sql.Parse.Table

/-!
# SQL: Reading statements about objects

`CREATE`, `ALTER` and `DROP`. A statement about a table is read as what it does to the table's
structure; one about a view, an index or another object is kept as its canonical text.
-/

namespace ChangeFeed.Sql.Parse

/-! ## Views and indexes -/

/-- A parameter behind its keyword and an equals sign. -/
def parameter? (k : String) (p : Parse String) : Parse String := do
  if ← keyword? k then
    symbol "="
    let value ← p
    return k ++ " = " ++ value ++ " "
  else return ""

/-- What may stand between `CREATE` and `VIEW`. -/
def viewParameters : Parse String := do
  let algorithm ← parameter? "ALGORITHM" (oneOf ["UNDEFINED", "MERGE", "TEMPTABLE"])
  let definer ← parameter? "DEFINER" user
  if ← keywords? ["SQL", "SECURITY"] then
    let rights ← oneOf ["DEFINER", "INVOKER"]
    return algorithm ++ definer ++ "SQL SECURITY " ++ rights ++ " "
  else return algorithm ++ definer

/-- Named options of a view behind their keyword. -/
def viewOptions? (inner : Inner) : Parse String := do
  let os ← namedOptions inner ["WITH"]
  return if os.isEmpty then "" else " WITH (" ++ commaText os ++ ")"

/-- A view behind its keyword. -/
def viewTail (inner : Inner) : Parse String := do
  let n ← name
  let cs ← anyColumns?
  let options ← viewOptions? inner
  let cluster ←
    if ← keywords? ["CLUSTER", "BY"] then do
      let is ← columns?
      pure (if is.isEmpty then "" else " CLUSTER BY " ++ columnsText is)
    else pure ""
  keyword "AS"
  let q ← inner.query
  return n.render ++ someColumnsText cs ++ options ++ cluster ++ " AS " ++ q

/-- The name of an index and the word in front of its table. -/
def indexName : Parse String := do
  let n ← name
  keyword "ON"
  return " " ++ n.render

/-- An index behind its keyword. -/
def indexTail (inner : Inner) : Parse String := do
  let concurrent ← words? ["CONCURRENTLY"]
  let exemption ← unlessThere?
  -- An index that is only created if it is not there has a name.
  let index ←
    if !exemption.isEmpty then indexName
    else if ← keyword? "ON" then pure ""
    else indexName
  let n ← name
  let method ← clause? ["USING"] ((· ++ " ") <$> identText)
  let keys ← parenthesized (commaSeparated (sortKey inner))
  let included ←
    if ← keyword? "INCLUDE" then do
      let is ← columns
      pure (" INCLUDE (" ++ ",".intercalate (is.map Ident.render) ++ ")")
    else pure ""
  let nulls ←
    if ← keyword? "NULLS" then (" NULLS " ++ ·) <$> phrase [["DISTINCT"], ["NOT", "DISTINCT"]]
    else pure ""
  let condition ← condition? inner
  return concurrent ++ exemption ++ index ++ " ON " ++ n.render ++ method ++
    "(" ++ ",".intercalate (keys.map Piece.renderAll) ++ ")" ++ included ++ nulls ++ condition

/-! ## Policies, secrets and extensions -/

/-- One that a policy is for. -/
def owner : Parse String := do
  match ← oneOf? ["CURRENT_USER", "CURRENT_ROLE", "SESSION_USER"] with
  | some k => return k
  | none => identText

/-- Whom a policy is for, and the conditions that it puts on rows. -/
def policyTerms (inner : Inner) : Parse String := do
  let owners ← clause? ["TO"] (commaText <$> commaSeparated owner)
  let visible ← clause? ["USING"] (nestedText inner)
  let checked ← clause? ["WITH", "CHECK"] (nestedText inner)
  return owners ++ visible ++ checked

/-- The name of a policy and its table. -/
def policyName : Parse String := do
  let i ← ident
  keyword "ON"
  let n ← name
  return i.render ++ " ON " ++ n.render

/-- A policy behind its keyword. -/
def policyTail (inner : Inner) : Parse String := do
  let policy ← policyName
  let kind ← clause? ["AS"] (oneOf ["PERMISSIVE", "RESTRICTIVE"])
  let command ← clause? ["FOR"] (oneOf ["ALL", "SELECT", "INSERT", "UPDATE", "DELETE"])
  let terms ← policyTerms inner
  return policy ++ kind ++ command ++ terms

/-- Takes a token; its text if it is an identifier. -/
def looseIdent : Parse (Option String) := fun ts =>
  match ident ts with
  | .ok (i, rest) => .ok (some i.render, rest)
  | .error _ => .ok (none, ts.tail)

/-- The name of a secret, and where it is kept. -/
def secretName : Parse (Option String × Option String) := do
  if ← symbolAhead? "(" then return (none, none)
  else if ← keyword? "IN" then
    match ← looseIdent with
    | some place => return (none, some place)
    -- Where no place could be read, another one may be said.
    | none => if ← keyword? "IN" then return (none, ← looseIdent) else return (none, none)
  else
    let i ← looseIdent
    if ← keyword? "IN" then return (i, ← looseIdent) else return (i, none)

def secretOption : Parse String := do
  let key ← ident
  let value ← ident
  return key.render ++ " " ++ value.render

/-- A secret behind its keyword. -/
def secretTail : Parse String := do
  let exemption ← unlessThere?
  let (i, place) ← secretName
  symbol "("
  keyword "TYPE"
  let kind ← ident
  let options ←
    if ← symbol? "," then do
      let os ← commaSeparated secretOption
      pure (", " ++ commaText os)
    else pure ""
  symbol ")"
  return exemption ++ textBehind " " i ++ textBehind " IN " place ++ " ( TYPE " ++ kind.render ++
    options ++ " )"

/-- An extension behind its keyword. -/
def extensionTail : Parse String := do
  let exemption ← unlessThere?
  let i ← ident
  let details ←
    if ← keyword? "WITH" then do
      let schema ← clause? ["SCHEMA"] identText
      let version ← clause? ["VERSION"] identText
      let cascade ← words? ["CASCADE"]
      pure (schema ++ version ++ cascade)
    else pure ""
  return exemption ++ " " ++ i.render ++ (if details.isEmpty then "" else " WITH" ++ details)

/-! ## Schemas, databases, roles and types -/

/-- A schema behind its keyword. -/
def schemaTail : Parse String := do
  let exemption ← unlessThere?
  if ← keyword? "AUTHORIZATION" then
    let i ← ident
    return exemption ++ " AUTHORIZATION " ++ i.render
  else
    let n ← name
    let authorization ← clause? ["AUTHORIZATION"] identText
    return exemption ++ " " ++ n.render ++ authorization

/-- Where a database is kept: the kind of place and the place. -/
def databasePlace? : Parse (Option (String × String)) := do
  match ← oneOf? ["LOCATION", "MANAGEDLOCATION"] with
  | some k =>
    let text ← literalText
    return some (k, " " ++ k ++ " " ++ plainQuoted text)
  | none => return none

/-- A database behind its keyword. -/
def databaseTail : Parse String := do
  let exemption ← unlessThere?
  let n ← name
  let places ← many databasePlace?
  let last := fun k => textBehind "" (places.reverse.lookup k)
  return exemption ++ " " ++ n.render ++ last "LOCATION" ++ last "MANAGEDLOCATION"

/-- Roles behind their keyword. -/
def rolesTail : Parse String := do
  let exemption ← unlessThere?
  let ns ← names
  let _ ← keyword? "WITH"
  return exemption ++ " " ++ namesText ns

/-- A sequence behind its keyword. -/
def sequenceTail : Parse String := do
  let exemption ← unlessThere?
  let n ← name
  let t ← clause? ["AS"] (DataType.render <$> dataType)
  let options ← sequenceOptions
  let owner ← clause? ["OWNED", "BY"] nameText
  return exemption ++ " " ++ n.render ++ t ++ options ++ owner

def typeAttribute : Parse String := do
  let i ← ident
  let t ← dataType
  let collation ← clause? ["COLLATE"] nameText
  return i.render ++ " " ++ t.render ++ collation

/-- Items up to the closing parenthesis, the opening one read. A comma may stand behind the last
one; `limit` bounds their number. -/
def closedItems (p : Parse (Option String)) : (limit : Nat) → Parse (List String)
  | 0 => fail
  | limit + 1 => do
    let item ← p
    let comma ← symbol? ","
    if ← symbol? ")" then return item.toList
    else if comma then
      let rest ← closedItems p limit
      return item.toList ++ rest
    else fail

/-- A user-defined type behind its keyword. -/
def typeTail : Parse String := do
  let n ← name
  keyword "AS"
  if ← keyword? "ENUM" then
    symbol "("
    let labels ← if ← symbolAhead? ")" then pure [] else commaSeparated ident
    symbol ")"
    return " " ++ n.render ++ " AS ENUM " ++ columnsText labels
  else if !(← symbol? "(") then return " " ++ n.render ++ " AS ()"
  else if ← symbol? ")" then return " " ++ n.render ++ " AS ()"
  else
    let attributes ← closedItems (some <$> typeAttribute) ((← remaining) + 1)
    return " " ++ n.render ++ " AS (" ++ commaText attributes ++ ")"

/-- A table kept by a module, behind its keywords. -/
def virtualTableTail : Parse String := do
  let exemption ← unlessThere?
  let n ← name
  keyword "USING"
  let i ← ident
  let arguments ← columns?
  return exemption ++ " " ++ n.render ++ " USING " ++ i.render ++ someColumnsText arguments

/-! ## Procedures and functions -/

/-- A parameter of a procedure, if a word is ahead. -/
def procedureParameter? : Parse (Option String) := do
  match ← peek? with
  | some (.word ..) =>
    let i ← ident
    let t ← dataType
    return some (i.render ++ " " ++ t.render)
  | _ => return none

/-- The parameters of a procedure in parentheses, or nothing. -/
def procedureParameters? : Parse String := do
  if !(← symbol? "(") then return ""
  else if ← symbol? ")" then return ""
  else
    let ps ← closedItems procedureParameter? ((← remaining) + 1)
    return if ps.isEmpty then "" else " (" ++ commaText ps ++ ")"

/-- A procedure behind its keyword. -/
def procedureTail (inner : Inner) : Parse String := do
  let n ← name
  let parameters ← procedureParameters?
  keywords ["AS", "BEGIN"]
  let body ← series inner.statement
  keyword "END"
  return " " ++ n.render ++ parameters ++ " AS BEGIN " ++ "; ".intercalate body ++ " END"

/-- An argument of a function. A type that is not built in is taken for the name in front of the
type. -/
def functionArgument (inner : Inner) : Parse String := do
  let mode ← oneOf? ["IN", "OUT", "INOUT"]
  let first ← dataType
  let text ←
    match first with
    | .custom n _ => do
      let t ← dataType
      pure (textBehind "" (n.parts.head?.map Ident.render) ++ " " ++ t.render)
    | t => pure t.render
  let value ←
    if ← keyword? "DEFAULT" then (" = " ++ ·) <$> exprText inner
    else if ← symbol? "=" then (" = " ++ ·) <$> exprText inner
    else pure ""
  return textBehind "" (mode.map (· ++ " ")) ++ text ++ value

/-- A function by its name and its arguments. -/
def functionName (inner : Inner) : Parse String := do
  let n ← name
  if ← symbol? "(" then
    if ← symbol? ")" then return n.render ++ "()"
    let args ← commaSeparated (functionArgument inner)
    symbol ")"
    return n.render ++ "(" ++ commaText args ++ ")"
  else return n.render

/-! ## Creating -/

/-- The objects that cannot be replaced, by the words in front of them. -/
def plainlyCreated (inner : Inner) (alters temporary : Bool) :
    List (List String × Parse String) :=
  [(["EXTENSION"], ("EXTENSION" ++ ·) <$> extensionTail),
   (["INDEX"], ("INDEX" ++ ·) <$> indexTail inner),
   (["UNIQUE", "INDEX"], ("UNIQUE INDEX" ++ ·) <$> indexTail inner),
   (["VIRTUAL", "TABLE"], ("VIRTUAL TABLE" ++ ·) <$> virtualTableTail),
   (["SCHEMA"], ("SCHEMA" ++ ·) <$> schemaTail),
   (["DATABASE"], ("DATABASE" ++ ·) <$> databaseTail),
   (["ROLE"], ("ROLE" ++ ·) <$> rolesTail),
   (["SEQUENCE"], ((if temporary then "TEMPORARY " else "") ++ "SEQUENCE" ++ ·) <$> sequenceTail),
   (["TYPE"], ("TYPE" ++ ·) <$> typeTail),
   (["PROCEDURE"],
     ((if alters then "OR ALTER " else "") ++ "PROCEDURE" ++ ·) <$> procedureTail inner)]

/-- The objects that are no tables, by the words in front of them. -/
def created (inner : Inner) (replaces alters temporary : Bool) :
    List (List String × Parse String) :=
  let replacement := if replaces then "OR REPLACE " else ""
  [(["POLICY"], ("POLICY " ++ ·) <$> policyTail inner),
   (["SECRET"],
     (replacement ++ (if temporary then "TEMPORARY " else "") ++ "SECRET" ++ ·) <$> secretTail)] ++
  if replaces then [] else plainlyCreated inner alters temporary

/-- `CREATE` behind its keyword. -/
def create (inner : Inner) : Parse Statement := do
  let replaces ← keywords? ["OR", "REPLACE"]
  let alters ← keywords? ["OR", "ALTER"]
  let _ ← keyword? "LOCAL"
  let _ ← keyword? "GLOBAL"
  let _ ← keyword? "TRANSIENT"
  let temporary ← oneOf? ["TEMP", "TEMPORARY"]
  let parameters ← viewParameters
  if ← keyword? "TABLE" then createTable inner
  else if let some kind ← firstOf? [["MATERIALIZED", "VIEW"], ["VIEW"]] then
    let view ← viewTail inner
    return .other ("CREATE " ++ (if alters then "OR ALTER " else "") ++
      (if replaces then "OR REPLACE " else "") ++ parameters ++
      (if kind.length = 2 then "MATERIALIZED " else "") ++
      (if temporary.isSome then "TEMPORARY " else "") ++ "VIEW " ++ view)
  else if ← keywords? ["EXTERNAL", "TABLE"] then createExternalTable inner
  else
    let text ← behindFirst (created inner replaces alters temporary.isSome)
    return .other ("CREATE " ++ text)

/-! ## Dropping -/

/-- The kinds of objects, besides tables, that are dropped by name. -/
def droppable : List String :=
  ["VIEW", "INDEX", "ROLE", "SCHEMA", "DATABASE", "SEQUENCE", "STAGE", "TYPE"]

/-- Objects that are dropped by name, behind the keyword of their kind. -/
def dropNames (kind : String) : Parse String := do
  let conditional ← ifThere?
  let ns ← names
  let reach ← dropReach
  if kind = "ROLE" && !reach.isEmpty then fail
  else return kind ++ conditional ++ " " ++ namesText ns ++ reach

/-- How far the dropping of a function or a policy reaches. -/
def dropBehaviorText? : Parse String := phrase? [["CASCADE"], ["RESTRICT"]]

/-- Functions or procedures behind their keyword. -/
def dropFunctions (inner : Inner) (kind : String) : Parse String := do
  let conditional ← ifThere?
  let fs ← commaSeparated (functionName inner)
  let reach ← dropBehaviorText?
  return kind ++ conditional ++ " " ++ commaText fs ++ reach

def dropPolicy : Parse String := do
  let conditional ← ifThere?
  let policy ← policyName
  let reach ← dropBehaviorText?
  return "POLICY" ++ conditional ++ " " ++ policy ++ reach

def dropSecret : Parse String := do
  let conditional ← ifThere?
  let i ← ident
  let place ← if ← keyword? "FROM" then looseIdent else pure none
  return "SECRET" ++ conditional ++ " " ++ i.render ++ textBehind " FROM " place

def dropExtensions : Parse String := do
  let conditional ← ifThere?
  let is ← commaSeparated ident
  let reach ← dropBehaviorText?
  return "EXTENSION" ++ conditional ++ " " ++ identsText is ++ reach

/-- The objects that are dropped, besides tables, by the words in front of them. -/
def dropped (inner : Inner) : List (List String × Parse String) :=
  droppable.map (fun kind => ([kind], dropNames kind)) ++
  [(["FUNCTION"], dropFunctions inner "FUNCTION"), (["POLICY"], dropPolicy),
   (["PROCEDURE"], dropFunctions inner "PROCEDURE"), (["SECRET"], dropSecret),
   (["EXTENSION"], dropExtensions)]

/-- `DROP` behind its keyword. -/
def drop (inner : Inner) : Parse Statement := do
  let temporary ← keyword? "TEMPORARY"
  if ← keyword? "TABLE" then dropTables
  else
    let text ← behindFirst (dropped inner)
    return .other ("DROP " ++ (if temporary then "TEMPORARY " else "") ++ text)

/-! ## Altering -/

def alterView (inner : Inner) : Parse String := do
  let n ← name
  let cs ← columns?
  let options ← viewOptions? inner
  keyword "AS"
  let q ← inner.query
  return "VIEW " ++ n.render ++ options ++ someColumnsText cs ++ " AS " ++ q

def alterIndex : Parse String := do
  let old ← name
  keywords ["RENAME", "TO"]
  let new ← name
  return "INDEX " ++ old.render ++ " RENAME TO " ++ new.render

def alterPolicy (inner : Inner) : Parse String := do
  let policy ← policyName
  if ← keyword? "RENAME" then
    keyword "TO"
    let new ← ident
    return "POLICY " ++ policy ++ " RENAME TO " ++ new.render
  else
    let terms ← policyTerms inner
    return "POLICY " ++ policy ++ terms

/-- `ALTER` behind its keyword. -/
def alter (inner : Inner) : Parse Statement := do
  match ← oneOf ["TABLE", "VIEW", "INDEX", "POLICY"] with
  | "TABLE" => alterTable inner
  | "VIEW" => (fun text => .other ("ALTER " ++ text)) <$> alterView inner
  | "INDEX" => (fun text => .other ("ALTER " ++ text)) <$> alterIndex
  | _ => (fun text => .other ("ALTER " ++ text)) <$> alterPolicy inner

end ChangeFeed.Sql.Parse

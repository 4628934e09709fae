import ChangeFeed.Sql.Parse.Clause

/-!
# SQL: Reading privileges

`GRANT` and `REVOKE`: what may be done, with which objects, and by whom.
-/

namespace ChangeFeed.Sql.Parse

/-! ## Privileges -/

/-- Privileges on whole objects. -/
def objectPrivileges : List String :=
  ["CONNECT", "CREATE", "DELETE", "EXECUTE", "TEMPORARY", "TRIGGER", "TRUNCATE", "USAGE"]

/-- Privileges that may be limited to some columns. -/
def columnPrivileges : List String := ["INSERT", "REFERENCES", "SELECT", "UPDATE"]

def privilege : Parse String := do
  match ← oneOf? objectPrivileges with
  | some k => return k
  | none =>
    let k ← oneOf columnPrivileges
    let cs ← columns?
    return k ++ someColumnsText cs

def privileges : Parse String := do
  if ← keyword? "ALL" then
    let explicit ← words? ["PRIVILEGES"]
    return "ALL" ++ explicit
  else commaText <$> commaSeparated privilege

/-! ## Objects -/

/-- A part of a name; a star stands for any. -/
def patternPart : Parse String := do
  if ← symbol? "*" then return "*" else identText

def patternPart? : Parse (Option String) := do
  if ← symbol? "." then some <$> patternPart else return none

/-- A dotted name in which stars may stand. -/
def namePattern : Parse String := do
  let first ← patternPart
  let rest ← many patternPart?
  return ".".intercalate (first :: rest)

/-- The objects that privileges are about. Tables are the ones whose kind need not be said. -/
def privilegeObjects : Parse String := do
  match ← firstOf? [["ALL", "TABLES", "IN", "SCHEMA"], ["ALL", "SEQUENCES", "IN", "SCHEMA"]] with
  | some ks =>
    let ns ← names
    return phraseText ks ++ " " ++ namesText ns
  | none =>
    let kind ← oneOf? ["SEQUENCE", "SCHEMA", "TABLE"]
    let objects ← commaSeparated namePattern
    return match kind with
      | none | some "TABLE" => commaText objects
      | some k => k ++ " " ++ commaText objects

/-! ## Grantees -/

def granteeKinds : List (List String) :=
  [["ROLE"], ["USER"], ["SHARE"], ["GROUP"], ["PUBLIC"], ["DATABASE", "ROLE"],
   ["APPLICATION", "ROLE"], ["APPLICATION"]]

/-- A user or a role, in a name space or not. -/
def granteeName : Parse String := do
  let space ← user
  if ← symbol? ":" then
    let i ← ident
    return space ++ ":" ++ i.render
  else return space

/-- Grantees one after the other; `limit` bounds their number. A kind that is said holds for those
behind it, too. -/
def granteesUpTo : (limit : Nat) → (kind : List String) → Parse (List String)
  | 0, _ => fail
  | limit + 1, kind => do
    let said ← firstOf? granteeKinds
    let kind := said.getD kind
    let head := if kind.isEmpty then "" else phraseText kind ++ " "
    let first ← if kind = ["PUBLIC"] then pure head else (head ++ ·) <$> granteeName
    if ← symbol? "," then
      let rest ← granteesUpTo limit kind
      return first :: rest
    else return [first]

def grantees : Parse String := do
  let gs ← granteesUpTo ((← remaining) + 1) []
  return commaText gs

/-! ## Granting and revoking -/

def grantor? : Parse String := clause? ["GRANTED", "BY"] identText

/-- `GRANT` behind its keyword. -/
def grant : Parse String := do
  let ps ← privileges
  keyword "ON"
  let os ← privilegeObjects
  keyword "TO"
  let gs ← grantees
  let option ← words? ["WITH", "GRANT", "OPTION"]
  let grantor ← grantor?
  return "GRANT " ++ ps ++ " ON " ++ os ++ " TO " ++ gs ++ option ++ grantor

/-- `REVOKE` behind its keyword. -/
def revoke : Parse String := do
  let ps ← privileges
  keyword "ON"
  let os ← privilegeObjects
  keyword "FROM"
  let gs ← grantees
  let grantor ← grantor?
  let reach ← phrase? [["CASCADE"], ["RESTRICT"]]
  return "REVOKE " ++ ps ++ " ON " ++ os ++ " FROM " ++ gs ++ grantor ++ reach

end ChangeFeed.Sql.Parse

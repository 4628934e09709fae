import ChangeFeed.Sql.Parse.Expr

/-!
# SQL: Reading clauses as text

Queries, and the statements that leave tables alone, are kept as their canonical texts. Such a text
is put together from words, names and expressions. The text of a part that may be missing is empty
where it is missing, and carries its own blanks where it is not.
-/

namespace ChangeFeed.Sql.Parse

/-! ## Texts -/

/-- Several texts with commas between them. -/
def commaText (texts : List String) : String := ", ".intercalate texts

/-- Several words with blanks between them. -/
def phraseText (words : List String) : String := " ".intercalate words

/-- A text behind what announces it, or nothing. -/
def textBehind (before : String) (text : Option String) : String :=
  match text with
  | some text => before ++ text
  | none => ""

/-- The canonical texts of expressions, with commas between them. -/
def exprsText (es : List Expr) : String := commaText (es.map Expr.render)

def identsText (is : List Ident) : String := commaText (is.map Ident.render)

def namesText (ns : List Name) : String := commaText (ns.map Name.render)

def columnsText (cs : List Ident) : String := "(" ++ identsText cs ++ ")"

/-- Columns behind a blank, if there are any. -/
def someColumnsText (cs : List Ident) : String := if cs.isEmpty then "" else " " ++ columnsText cs

/-- A text between quotes that are not doubled inside it. -/
def plainQuoted (text : String) : String := "'" ++ text ++ "'"

/-! ## Words -/

/-- One of the phrases, which must be ahead. -/
def phrase (forms : List (List String)) : Parse String := do
  match ← firstOf? forms with
  | some ks => return phraseText ks
  | none => fail

/-- One of the phrases behind a blank, if one is ahead. -/
def phrase? (forms : List (List String)) : Parse String := do
  let found ← firstOf? forms
  return textBehind " " (found.map phraseText)

/-- The words behind a blank, if they are ahead. -/
def words? (ks : List String) : Parse String := phrase? [ks]

/-- Words that may be missing, in this order. -/
def wordsAhead : List String → Parse String
  | [] => return ""
  | k :: ks => do
    let first ← words? [k]
    let rest ← wordsAhead ks
    return first ++ rest

/-- The keyword is ahead with an opening parenthesis behind it; nothing is taken. -/
def openAhead? (k : String) : Parse Bool := fun ts =>
  match ts with
  | t :: .symbol "(" :: _ => .ok (t.isKeyword k, ts)
  | _ => .ok (false, ts)

/-! ## Clauses -/

/-- A text behind its keywords, or nothing. -/
def clause? (ks : List String) (p : Parse String) : Parse String := do
  if ← keywords? ks then
    let text ← p
    return " " ++ phraseText ks ++ " " ++ text
  else return ""

def exprText (inner : Inner) : Parse String := Expr.render <$> inner.expr

/-- The texts of expressions inside, with commas between them. -/
def exprListText (inner : Inner) : Parse String := exprsText <$> commaSeparated inner.expr

/-- An expression in parentheses. -/
def nestedText (inner : Inner) : Parse String := do
  let e ← parenthesized inner.expr
  return "(" ++ e.render ++ ")"

/-- Expressions in parentheses. -/
def nestedListText (inner : Inner) : Parse String := do
  let es ← parenthesized (exprListText inner)
  return "(" ++ es ++ ")"

def sortKeysText (inner : Inner) : Parse String := do
  let keys ← commaSeparated (sortKey inner)
  return commaText (keys.map Piece.renderAll)

def nameText : Parse String := Name.render <$> name

def identText : Parse String := Ident.render <$> ident

/-- A condition on rows. -/
def condition? (inner : Inner) : Parse String := clause? ["WHERE"] (exprText inner)

/-- The bound on a number of rows; `ALL` stands for none. -/
def limitText (inner : Inner) : Parse (Option String) := do
  if ← keyword? "ALL" then return none else some <$> exprText inner

/-- A text of a single character. -/
def singleCharacter : Parse String := do
  let text ← literalText
  if text.utf8ByteSize = 1 then return text else fail

/-! ## Named options -/

/-- An option written as a name, an equals sign and a value. -/
def namedOption (inner : Inner) : Parse String := do
  let i ← ident
  symbol "="
  let e ← inner.expr
  return i.render ++ " = " ++ e.render

/-- The texts of named options in parentheses behind their keywords. -/
def namedOptions (inner : Inner) (ks : List String) : Parse (List String) := do
  if ← keywords? ks then
    symbol "("
    if ← symbol? ")" then return []
    let os ← commaSeparated (namedOption inner)
    symbol ")"
    return os
  else return []

/-- The text of `IF EXISTS` behind a blank, if it is ahead. -/
def ifThere? : Parse String := words? ["IF", "EXISTS"]

/-- The text of `IF NOT EXISTS` behind a blank, if it is ahead. -/
def unlessThere? : Parse String := words? ["IF", "NOT", "EXISTS"]

/-! ## Users -/

/-- A user, at a host or not. Only a plain name can have a host. -/
def user : Parse String := do
  let n ← name
  if n.qualifiers.isEmpty then
    if ← symbol? "@" then
      let host ← ident
      return n.render ++ "@" ++ host.render
    else return n.render
  else return n.render

end ChangeFeed.Sql.Parse

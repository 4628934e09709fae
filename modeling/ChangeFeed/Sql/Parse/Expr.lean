import ChangeFeed.Sql.Parse.DataType
import ChangeFeed.Sql.Parse.Operator

/-!
# SQL: Reading expressions

An expression is an operand followed by operators with further operands. Its readers are given the
readers for what stands inside it, one level deeper, so that the depth of nesting is bounded in one
place.
-/

namespace ChangeFeed.Sql.Parse

/-- The readers for what is nested inside: an expression whose operators bind more tightly than a
level, and the canonical texts of a query and of a statement. -/
structure Inner where
  exprAbove : Nat → Parse Expr
  query : Parse String
  statement : Parse String

/-- A whole expression inside. -/
def Inner.expr (inner : Inner) : Parse Expr := inner.exprAbove Level.loosest

/-! ## Building forms -/

/-- Operands with commas between them. -/
def commaPieces : List Expr → List Piece
  | [] => []
  | [e] => [.operand e]
  | e :: es => .operand e :: .word ", " :: commaPieces es

/-- A part of a form that may be missing. -/
def optionalPiece (before : String) (e : Option Expr) : List Piece :=
  match e with
  | some e => [.word before, .operand e]
  | none => []

/-- Reads a part of a form if its keyword is ahead. -/
def after? {α : Type} (k : String) (p : Parse α) : Parse (Option α) := do
  if ← keyword? k then
    let a ← p
    return some a
  else return none

/-! ## Literals -/

/-- The literal that a token stands for by itself. -/
def literalOf? : Token → Option Literal
  | .number digits long => some (.number digits long)
  | .single text => some (.single text)
  | .double text => some (.double text)
  | .national text => some (.national text)
  | .hex digits => some (.hex digits)
  | .bits text quote => some (.bits text quote)
  | .placeholder text => some (.placeholder text)
  | t =>
    match t.keyword? with
    | some "TRUE" => some (.boolean true)
    | some "FALSE" => some (.boolean false)
    | some "NULL" => some .null
    | _ => none

/-- The rest of a named parameter behind its mark. -/
def parameter (mark : String) : Parse Literal := do
  match ← next with
  | .word text _ => return .placeholder (mark ++ text)
  | .number digits false => return .placeholder (mark ++ digits)
  | _ => fail

def literal : Parse Literal := do
  let t ← next
  match literalOf? t with
  | some l => return l
  | none =>
    match t with
    | .symbol ":" => parameter ":"
    | .symbol "@" => parameter "@"
    | _ => fail

/-! ## Function calls -/

def sortKey (inner : Inner) : Parse (List Piece) := do
  let e ← inner.expr
  let direction ← oneOf? ["ASC", "DESC"]
  let nulls ←
    if ← keywords? ["NULLS", "FIRST"] then pure " NULLS FIRST"
    else if ← keywords? ["NULLS", "LAST"] then pure " NULLS LAST"
    else pure ""
  return [.operand e, .word ((direction.map (" " ++ ·)).getD "" ++ nulls)]

/-- Several forms with commas between them. -/
def commaForms : List (List Piece) → List Piece
  | [] => []
  | [ps] => ps
  | ps :: rest => ps ++ .word ", " :: commaForms rest

/-- Sort keys behind the words that announce them. -/
def sortKeys (inner : Inner) : Parse (List Piece) := do
  let keys ← commaSeparated (sortKey inner)
  return .word "ORDER BY " :: commaForms keys

def sortKeys? (inner : Inner) : Parse (Option (List Piece)) := do
  if ← keywords? ["ORDER", "BY"] then some <$> sortKeys inner else return none

/-- The text of an identifier that may begin a wildcard. -/
def wildcardPart? : Token → Option Ident
  | .word text quoted => some ⟨text, if quoted then some '\x60' else none⟩
  | .single text => some ⟨text, some '\''⟩
  | _ => none

/-- What follows the first part of a dotted name: the text up to a wildcard, or nothing if there is
none at its end. -/
def wildcardTail : (limit : Nat) → Parse (Option String)
  | 0 => return none
  | limit + 1 => do
    if ← symbol? "." then
      let t ← next
      if t = .symbol "*" then return some ".*"
      match wildcardPart? t with
      | some i =>
        let tail ← wildcardTail limit
        return tail.map ("." ++ i.render ++ ·)
      | none => fail
    else return none

/-- A wildcard, alone or behind a dotted name; nothing is taken if none is ahead. -/
def wildcard? : Parse (Option String) := fun ts =>
  match ts with
  | .symbol "*" :: rest => .ok (some "*", rest)
  | t :: .symbol "." :: rest =>
    match wildcardPart? t with
    | some i =>
      match wildcardTail (rest.length + 1) (.symbol "." :: rest) with
      | .ok (some tail, after) => .ok (some (i.render ++ tail), after)
      | .ok (none, _) => .ok (none, ts)
      | .error e => .error e
    | none => .ok (none, ts)
  | _ => .ok (none, ts)

def exprOrWildcard (inner : Inner) : Parse (List Piece) := do
  match ← wildcard? with
  | some text => return [.word text]
  | none =>
    let e ← inner.expr
    return [.operand e]

def namedArgument (inner : Inner) : Parse (List Piece) := do
  let i ← ident
  let mark ← if ← keyword? "VALUE" then pure "VALUE" else do symbol "=>"; pure "=>"
  let value ← exprOrWildcard inner
  return .word (i.render ++ " " ++ mark ++ " ") :: value

def argument (inner : Inner) : Parse (List Piece) := do
  match ← optional? (namedArgument inner) with
  | some ps => return ps
  | none => exprOrWildcard inner

/-- What is said about the absence of values in a JSON function. -/
def jsonNulls? : Parse (Option (List Piece)) := do
  if ← keywords? ["ABSENT", "ON", "NULL"] then return some [.word "ABSENT ON NULL"]
  else if ← keywords? ["NULL", "ON", "NULL"] then return some [.word "NULL ON NULL"]
  else return none

/-- What is said about equal arguments. -/
def duplicates : Parse (List Piece) := do
  let all ← keyword? "ALL"
  let distinct ← keyword? "DISTINCT"
  if all && distinct then fail
  else if all then return [.word "ALL "]
  else if distinct then return [.word "DISTINCT "]
  else return []

/-- What to do when a joined text grows too long. -/
def overflow? : Parse (Option (List Piece)) := do
  if ← keywords? ["ON", "OVERFLOW"] then
    if ← keyword? "ERROR" then return some [.word "ON OVERFLOW ERROR"]
    else
      keyword "TRUNCATE"
      let filler ←
        match ← peek? with
        | some (.single text) => do
          let _ ← next
          pure (" " ++ enquote '\'' text)
        | some t =>
          if t.isKeyword "WITH" || t.isKeyword "WITHOUT" then pure ""
          else match t with
            | .national _ | .hex _ => do
              let l ← literal
              pure (" " ++ l.render)
            | _ => fail
        | none => fail
      let counted ← keyword? "WITH"
      if counted then pure () else keyword "WITHOUT"
      keyword "COUNT"
      let tail := if counted then " WITH COUNT" else " WITHOUT COUNT"
      return some [.word ("ON OVERFLOW TRUNCATE" ++ filler ++ tail)]
  else return none

/-- The clauses that were found, each behind a blank. -/
def clausePieces (first : Bool) : List (Option (List Piece)) → List Piece
  | [] => []
  | none :: rest => clausePieces first rest
  | some ps :: rest => (if first then ps else .word " " :: ps) ++ clausePieces false rest

/-- The arguments of a function, whose opening parenthesis has been read. -/
def argumentsTail (inner : Inner) : Parse (List Piece) := do
  let nulls ← jsonNulls?
  if ← symbol? ")" then return clausePieces true [nulls] ++ [.word ")"]
  let unique ← duplicates
  let args ← commaSeparated (argument inner)
  let order ← sortKeys? inner
  let limit ← after? "LIMIT" inner.expr
  let separator ← after? "SEPARATOR" literal
  let tooLong ← overflow?
  let more ← jsonNulls?
  symbol ")"
  return unique ++ commaForms args ++
    clausePieces false
      [nulls, order, limit.map fun e => [.word "LIMIT ", .operand e],
       separator.map fun l => [.word ("SEPARATOR " ++ l.render)], tooLong, more] ++
    [.word ")"]

/-- The order within which a set function looks at its arguments. -/
def withinGroup? (inner : Inner) : Parse (List Piece) := do
  if ← keywords? ["WITHIN", "GROUP"] then
    symbol "("
    keywords ["ORDER", "BY"]
    let keys ← sortKeys inner
    symbol ")"
    return .word " WITHIN GROUP (" :: keys ++ [.word ")"]
  else return []

/-- What a function does with absent values. -/
def nullTreatment? : Parse (List Piece) := do
  match ← oneOf? ["RESPECT", "IGNORE"] with
  | some k =>
    keyword "NULLS"
    return [.word (" " ++ k ++ " NULLS")]
  | none => return []

/-- One end of a window's frame. -/
def frameBound (inner : Inner) : Parse (List Piece) := do
  if ← keywords? ["CURRENT", "ROW"] then return [.word "CURRENT ROW"]
  let distance ←
    if ← keyword? "UNBOUNDED" then pure [Piece.word "UNBOUNDED"]
    else do
      let e ← inner.expr
      pure [.operand e]
  let side ← oneOf ["PRECEDING", "FOLLOWING"]
  return distance ++ [.word (" " ++ side)]

def frame (inner : Inner) : Parse (List Piece) := do
  let unit ← oneOf ["ROWS", "RANGE", "GROUPS"]
  if ← keyword? "BETWEEN" then
    let first ← frameBound inner
    keyword "AND"
    let last ← frameBound inner
    return .word (unit ++ " BETWEEN ") :: first ++ .word " AND " :: last
  else
    let bound ← frameBound inner
    return .word (unit ++ " ") :: bound

/-- A window in parentheses, the opening one read. -/
def windowTail (inner : Inner) : Parse (List Piece) := do
  let base ←
    match ← peek? with
    | some (.word text quoted) =>
      if quoted || !(isKeywordText text) then do
        let i ← ident
        pure (some [Piece.word i.render])
      else pure none
    | _ => pure none
  let partition ←
    if ← keywords? ["PARTITION", "BY"] then do
      let es ← commaSeparated inner.expr
      pure (some (.word "PARTITION BY " :: commaPieces es))
    else pure none
  let order ← sortKeys? inner
  let range ←
    if ← symbol? ")" then pure none
    else do
      let f ← frame inner
      symbol ")"
      pure (some f)
  return .word "(" :: clausePieces true [base, partition, order, range] ++ [.word ")"]

/-- The window over which a function ranges. -/
def over? (inner : Inner) : Parse (List Piece) := do
  if ← keyword? "OVER" then
    if ← symbol? "(" then
      let w ← windowTail inner
      return .word " OVER " :: w
    else
      let i ← ident
      return [.word (" OVER " ++ i.render)]
  else return []

/-- Everything behind the name of a function. -/
def callTail (inner : Inner) : Parse (List Piece) := do
  symbol "("
  let args ← argumentsTail inner
  let group ← withinGroup? inner
  let nulls ← nullTreatment?
  let window ← over? inner
  return .word "(" :: args ++ group ++ nulls ++ window

/-! ## Special forms -/

/-- Branches of a case distinction behind their first keyword. -/
def caseBranches (inner : Inner) : (limit : Nat) → Parse (List Piece)
  | 0 => fail
  | limit + 1 => do
    let condition ← inner.expr
    keyword "THEN"
    let result ← inner.expr
    let rest ← if ← keyword? "WHEN" then caseBranches inner limit else pure []
    return [.word " WHEN ", .operand condition, .word " THEN ", .operand result] ++ rest

/-- A case distinction behind its first keyword. -/
def caseForm (inner : Inner) : Parse Expr := do
  let subject ←
    if ← keyword? "WHEN" then pure none
    else do
      let e ← inner.expr
      keyword "WHEN"
      pure (some e)
  let branches ← caseBranches inner (← remaining)
  let otherwise ← after? "ELSE" inner.expr
  keyword "END"
  return .form (.word "CASE" :: optionalPiece " " subject ++ branches ++
    optionalPiece " ELSE " otherwise ++ [.word " END"])

/-- A conversion to a type or to a character set. -/
def convertForm (inner : Inner) : Parse Expr := do
  symbol "("
  let e ← inner.expr
  if ← keyword? "USING" then
    let charset ← name
    symbol ")"
    return .form [.word "CONVERT(", .operand e, .word (" USING " ++ charset.render ++ ")")]
  else
    symbol ","
    let t ← dataType
    let charset ←
      if ← keywords? ["CHARACTER", "SET"] then do
        let c ← name
        pure (" CHARACTER SET " ++ c.render)
      else pure ""
    symbol ")"
    return .form [.word "CONVERT(", .operand e, .word (", " ++ t.render ++ charset ++ ")")]

def castForm (inner : Inner) (k : String) : Parse Expr := do
  symbol "("
  let e ← inner.expr
  keyword "AS"
  let t ← dataType
  let format ←
    match ← after? "FORMAT" literal with
    | some l =>
      if ← keywords? ["AT", "TIME", "ZONE"] then do
        let zone ← literal
        pure (" FORMAT " ++ l.render ++ " AT TIME ZONE " ++ zone.render)
      else pure (" FORMAT " ++ l.render)
    | none => pure ""
  symbol ")"
  return .form [.word (k ++ "("), .operand e, .word (" AS " ++ t.render ++ format ++ ")")]

/-- A test whether a query has rows. -/
def existsForm (inner : Inner) (negated : Bool) : Parse Expr := do
  let q ← parenthesized inner.query
  return .form [.word ((if negated then "NOT EXISTS (" else "EXISTS (") ++ q ++ ")")]

/-- A part taken from a moment. -/
def extractForm (inner : Inner) : Parse Expr := do
  symbol "("
  let part ← oneOf momentParts
  keyword "FROM"
  let e ← inner.expr
  symbol ")"
  return .form [.word ("EXTRACT(" ++ part ++ " FROM "), .operand e, .word ")"]

/-- Rounding, to a unit of time or to a number of places. -/
def roundForm (inner : Inner) (k : String) : Parse Expr := do
  symbol "("
  let e ← inner.expr
  let target ←
    if ← keyword? "TO" then do
      let part ← oneOf momentParts
      pure (" TO " ++ part)
    else if ← symbol? "," then
      match ← literal with
      | .number digits long => pure (", " ++ (Literal.number digits long).render)
      | _ => fail
    else pure ""
  symbol ")"
  return .form [.word (k ++ "("), .operand e, .word (target ++ ")")]

def positionForm (inner : Inner) : Parse Expr := do
  symbol "("
  let part ← inner.exprAbove Level.comparison
  keyword "IN"
  let whole ← inner.expr
  symbol ")"
  return .form [.word "POSITION(", .operand part, .word " IN ", .operand whole, .word ")"]

def substringForm (inner : Inner) : Parse Expr := do
  symbol "("
  let e ← inner.expr
  let commas ← symbol? ","
  let start ← if commas then some <$> inner.expr else after? "FROM" inner.expr
  let length ←
    match ← after? "FOR" inner.expr with
    | some n => pure (some n)
    | none => if ← symbol? "," then some <$> inner.expr else pure none
  symbol ")"
  return .form (.word "SUBSTRING(" :: .operand e ::
    optionalPiece (if commas then ", " else " FROM ") start ++
    optionalPiece (if commas then ", " else " FOR ") length ++ [.word ")"])

/-- A text with a part replaced. -/
def overlayForm (inner : Inner) : Parse Expr := do
  symbol "("
  let e ← inner.expr
  keyword "PLACING"
  let new ← inner.expr
  keyword "FROM"
  let start ← inner.expr
  let length ← after? "FOR" inner.expr
  symbol ")"
  return .form ([.word "OVERLAY(", .operand e, .word " PLACING ", .operand new, .word " FROM ",
    .operand start] ++ optionalPiece " FOR " length ++ [.word ")"])

/-- A text cut at its ends. -/
def trimForm (inner : Inner) : Parse Expr := do
  symbol "("
  let side ← oneOf? ["BOTH", "LEADING", "TRAILING"]
  let head := "TRIM(" ++ (side.map (· ++ " ")).getD ""
  let e ← inner.expr
  if ← keyword? "FROM" then
    let whole ← inner.expr
    symbol ")"
    return .form [.word head, .operand e, .word " FROM ", .operand whole, .word ")"]
  else
    let _ ← symbol? ","
    symbol ")"
    return .form [.word head, .operand e, .word ")"]

/-- A precision behind a unit of time. -/
def precisionText (p : Option Nat) : String :=
  match p with
  | some n => " (" ++ toString n ++ ")"
  | none => ""

/-- A span of time behind its keyword. -/
def intervalForm (inner : Inner) : Parse Expr := do
  let amount ← inner.expr
  let unit ← oneOf intervalUnits
  let tail ←
    if unit = "SECOND" then
      match ← precision? with
      | some (p, some s) => pure (" (" ++ toString p ++ ", " ++ toString s ++ ")")
      | some (p, none) => pure (precisionText (some p))
      | none => pure ""
    else do
      let p ← size?
      match ← after? "TO" (oneOf momentParts) with
      | some last =>
        let fraction ← if last = "SECOND" then size? else pure none
        pure (precisionText p ++ " TO " ++ last ++ precisionText fraction)
      | none => pure (precisionText p)
  return .form [.word "INTERVAL ", .operand amount, .word (" " ++ unit ++ tail)]

/-- A full-text search behind its keyword. -/
def matchForm : Parse Expr := do
  let cols ← columns
  keyword "AGAINST"
  symbol "("
  let value ← literal
  let mode ←
    if ← keywords? ["IN", "NATURAL", "LANGUAGE", "MODE"] then
      if ← keywords? ["WITH", "QUERY", "EXPANSION"] then
        pure " IN NATURAL LANGUAGE MODE WITH QUERY EXPANSION"
      else pure " IN NATURAL LANGUAGE MODE"
    else if ← keywords? ["IN", "BOOLEAN", "MODE"] then pure " IN BOOLEAN MODE"
    else if ← keywords? ["WITH", "QUERY", "EXPANSION"] then pure " WITH QUERY EXPANSION"
    else pure ""
  symbol ")"
  return .form [.word ("MATCH (" ++ ", ".intercalate (cols.map Ident.render) ++ ") AGAINST (" ++
    value.render ++ mode ++ ")")]

/-- A row of values in brackets, the opening one read. -/
def arrayTail (inner : Inner) (head : String) : Parse Expr := do
  if ← symbol? "]" then return .form [.word (head ++ "]")]
  let items ← commaSeparated inner.expr
  symbol "]"
  return .form (.word head :: commaPieces items ++ [.word "]"])

/-- A negation behind its keyword. -/
def notForm (inner : Inner) : Parse Expr := do
  if ← keyword? "EXISTS" then existsForm inner true
  else
    let e ← inner.exprAbove Level.negation
    return .unary "NOT " e

/-! ## Operands -/

/-- A word read as a function, as the mark of a character set, or as a column. -/
def plainWord (inner : Inner) (i : Ident) : Parse Expr := do
  let introduces := i.text.startsWith "_"
  match ← peek? with
  | some (.symbol "(") =>
    let tail ← callTail inner
    return .call [i] tail
  | some (.single _) | some (.double _) | some (.hex _) =>
    if introduces then
      let l ← literal
      return .form [.word (i.text ++ " " ++ l.render)]
    else return .column [i]
  | _ => return .column [i]

/-- The form that a word begins, if it begins one; the word has been read. -/
def specialForm? (inner : Inner) (i : Ident) (ahead : Option Token) : Option (Parse Expr) :=
  if i.quote.isSome then none
  else
    match Text.uppercase i.text with
    | "TRUE" => some (return .literal (.boolean true))
    | "FALSE" => some (return .literal (.boolean false))
    | "NULL" => some (return .literal .null)
    | "CURRENT_TIMESTAMP" | "CURRENT_TIME" | "CURRENT_DATE" | "LOCALTIME" | "LOCALTIMESTAMP" =>
      some do
        if ← symbol? "(" then
          let args ← argumentsTail inner
          return .call [i] (.word "(" :: args)
        else return .call [i] []
    | "CASE" => some (caseForm inner)
    | "CONVERT" => some (convertForm inner)
    | "CAST" => some (castForm inner "CAST")
    | "TRY_CAST" => some (castForm inner "TRY_CAST")
    | "SAFE_CAST" => some (castForm inner "SAFE_CAST")
    | "EXISTS" => some (existsForm inner false)
    | "EXTRACT" => some (extractForm inner)
    | "CEIL" => some (roundForm inner "CEIL")
    | "FLOOR" => some (roundForm inner "FLOOR")
    | "POSITION" =>
      if ahead = some (.symbol "(") then
        some do
          match ← optional? (positionForm inner) with
          | some e => return e
          | none =>
            let tail ← callTail inner
            return .call [i] tail
      else none
    | "SUBSTRING" => some (substringForm inner)
    | "OVERLAY" => some (overlayForm inner)
    | "TRIM" => some (trimForm inner)
    | "INTERVAL" => some (intervalForm inner)
    | "ARRAY" =>
      if ahead = some (.symbol "[") then some do symbol "["; arrayTail inner "ARRAY["
      else if ahead = some (.symbol "(") then
        some do
          let q ← parenthesized inner.query
          return .call [i] [.word ("(" ++ q ++ ")")]
      else none
    | "NOT" => some (notForm inner)
    | "MATCH" => some matchForm
    | _ => none

/-- An operand that begins with a word, and whether a collation may follow it. Where the form that
the word begins does not fit, the word is read as a name, unless it is reserved. -/
def wordOperand (inner : Inner) (i : Ident) : Parse (Expr × Bool) := fun ts =>
  match specialForm? inner i ts.head? with
  | none => ((·, true) <$> plainWord inner i) ts
  | some p =>
    match p ts with
    | .ok (e, rest) => .ok ((e, true), rest)
    | .error failure =>
      if reservedColumns.contains (Text.uppercase i.text) then .error failure
      else
        match plainWord inner i ts with
        | .ok (e, rest) => .ok ((e, false), rest)
        | .error _ => .error failure

/-- A literal that names its type, or a span of time. -/
def typedLiteral (inner : Inner) : Parse Expr := do
  match ← dataType with
  | .sized "INTERVAL" none => intervalForm inner
  | .custom .. => fail
  | t =>
    let text ← literalText
    return .form [.word (t.render ++ " " ++ enquote '\'' text)]

/-- A call of a function between braces, the opening one read. -/
def bracedCall (inner : Inner) : Parse Expr := do
  keyword "FN"
  let n ← name
  let tail ← callTail inner
  return .form [.word "\x7bfn ", .operand (.call n.parts tail)]

/-- Expressions or a query in parentheses, the opening one read. -/
def parenthesisTail (inner : Inner) : Parse Expr := do
  let select ← ahead? "SELECT"
  let bound ← ahead? "WITH"
  if select || bound then
    let q ← inner.query
    symbol ")"
    return .form [.word ("(" ++ q ++ ")")]
  else
    let items ← commaSeparated inner.expr
    symbol ")"
    match items with
    | [e] => return .nested e
    | es => return .tuple es

/-- An operand, and whether a collation may follow it. -/
def operand (inner : Inner) : Parse (Expr × Bool) := do
  match ← optional? (typedLiteral inner) with
  | some e => return (e, false)
  | none =>
    let t ← next
    match t with
    | .word text quoted => wordOperand inner ⟨text, if quoted then some '\x60' else none⟩
    | .symbol "[" =>
      let e ← arrayTail inner "["
      return (e, true)
    | .symbol "-" =>
      let e ← inner.exprAbove Level.product
      return (.unary "-" e, true)
    | .symbol "+" =>
      let e ← inner.exprAbove Level.product
      return (.unary "+" e, true)
    | .symbol "(" =>
      let e ← parenthesisTail inner
      return (e, true)
    | .symbol ":" =>
      let l ← parameter ":"
      return (.literal l, true)
    | .symbol "@" =>
      let l ← parameter "@"
      return (.literal l, true)
    | .symbol "\x7b" =>
      let e ← bracedCall inner
      symbol "\x7d"
      return (.form [.operand e, .word "\x7d"], true)
    | _ =>
      match literalOf? t with
      | some l => return (.literal l, true)
      | none => fail

def collated (inner : Inner) : Parse Expr := do
  let (e, mayCollate) ← operand inner
  if mayCollate then
    if ← keyword? "COLLATE" then
      let collation ← name
      return .form [.operand e, .word (" COLLATE " ++ collation.render)]
    else return e
  else return e

/-- An index or a slice in brackets, the opening one read. -/
def subscriptTail (inner : Inner) : Parse (List Piece) := do
  let lower ← if ← symbol? ":" then pure none else some <$> inner.expr
  let lowerPieces := optionalPiece "[" lower
  if ← symbol? "]" then
    match lower with
    | some _ => return lowerPieces ++ [.word "]"]
    | none => return [.word "[:]"]
  if lower.isSome then symbol ":"
  let head := if lower.isSome then lowerPieces ++ [.word ":"] else [.word "[:"]
  if ← symbol? "]" then return head ++ [.word "]"]
  let upper ← inner.expr
  let head := head ++ [.operand upper]
  if ← symbol? "]" then return head ++ [.word "]"]
  symbol ":"
  if ← symbol? "]" then return head ++ [.word "]"]
  let stride ← inner.expr
  symbol "]"
  return head ++ [.word ":", .operand stride, .word "]"]

/-- A value with a member or an element taken from it. Parts of a dotted name are one column. -/
def member? (inner : Inner) (e : Expr) : Parse (Option Expr) := fun ts =>
  match ts with
  | .symbol "." :: .symbol "*" :: _ => .ok (none, ts)
  | .symbol "." :: .single text :: rest =>
    match e with
    | .column parts => .ok (some (.column (parts ++ [⟨text, some '\''⟩])), rest)
    | _ => .ok (some (.form [.operand e, .word ("." ++ enquote '\'' text)]), rest)
  | .symbol "." :: rest =>
    match inner.exprAbove Level.period rest with
    | .ok (m, after) =>
      match e, m with
      | .column parts, .column more => .ok (some (.column (parts ++ more)), after)
      | .column parts, .call more tail => .ok (some (.call (parts ++ more) tail), after)
      | _, _ => .ok (some (.form [.operand e, .word ".", .operand m]), after)
    | .error failure => .error failure
  | .symbol "[" :: rest =>
    match subscriptTail inner rest with
    | .ok (ps, after) => .ok (some (.form (.operand e :: ps)), after)
    | .error failure => .error failure
  | _ => .ok (none, ts)

/-! ## Operators -/

/-- The negation in front of an operator. -/
def notText (negated : Bool) : String := if negated then "NOT " else ""

/-- A comparison with some or all of a set of values. -/
def quantified (inner : Inner) (level : Nat) (left : Expr) (operator k : String) : Parse Expr := do
  symbol "("
  let select ← ahead? "SELECT"
  let bound ← ahead? "WITH"
  if select || bound then
    -- The parentheses belong to the query.
    let right ← fun ts => inner.exprAbove level (.symbol "(" :: ts)
    if quantifiable.contains operator then
      return .form [.operand left, .word (" " ++ operator ++ " " ++ k), .operand right]
    else fail
  else
    let right ← inner.exprAbove level
    symbol ")"
    if quantifiable.contains operator then
      return .form [.operand left, .word (" " ++ operator ++ " " ++ k ++ "("), .operand right,
        .word ")"]
    else fail

def properties : List (List String) :=
  [["NULL"], ["NOT", "NULL"], ["TRUE"], ["NOT", "TRUE"], ["FALSE"], ["NOT", "FALSE"], ["UNKNOWN"],
   ["NOT", "UNKNOWN"]]

/-- Takes the first of the sequences of keywords that is ahead. -/
def firstOf? : List (List String) → Parse (Option (List String))
  | [] => return none
  | ks :: rest => do if ← keywords? ks then return some ks else firstOf? rest

def property (inner : Inner) (left : Expr) : Parse Expr := do
  match ← firstOf? properties with
  | some ks => return .form [.operand left, .word (" IS " ++ " ".intercalate ks)]
  | none =>
    match ← firstOf? [["DISTINCT", "FROM"], ["NOT", "DISTINCT", "FROM"]] with
    | some ks =>
      let right ← inner.expr
      return .form [.operand left, .word (" IS " ++ " ".intercalate ks ++ " "), .operand right]
    | none => fail

/-- What follows `IN`. -/
def membership (inner : Inner) (left : Expr) (negated : Bool) : Parse Expr := do
  let word := " " ++ notText negated ++ "IN "
  if ← keyword? "UNNEST" then
    let e ← parenthesized inner.expr
    return .form [.operand left, .word (word ++ "UNNEST("), .operand e, .word ")"]
  symbol "("
  let select ← ahead? "SELECT"
  let bound ← ahead? "WITH"
  if select || bound then
    let q ← inner.query
    symbol ")"
    return .form [.operand left, .word (word ++ "(" ++ q ++ ")")]
  else
    let items ← commaSeparated inner.expr
    symbol ")"
    return .form (.operand left :: .word (word ++ "(") :: commaPieces items ++ [.word ")"])

/-- What follows `BETWEEN`. -/
def range (inner : Inner) (left : Expr) (negated : Bool) : Parse Expr := do
  let low ← inner.exprAbove Level.comparison
  keyword "AND"
  let high ← inner.exprAbove Level.comparison
  return .form [.operand left, .word (" " ++ notText negated ++ "BETWEEN "), .operand low,
    .word " AND ", .operand high]

/-- A pattern and the character that escapes in it. -/
def pattern (inner : Inner) (left : Expr) (word : String) : Parse Expr := do
  let p ← inner.exprAbove Level.pattern
  let escape ←
    match ← after? "ESCAPE" literalText with
    | some text => pure (" ESCAPE '" ++ text ++ "'")
    | none => pure ""
  return .form [.operand left, .word (" " ++ word), .operand p, .word escape]

def negatable (inner : Inner) (left : Expr) : Parse Expr := do
  let negated ← keyword? "NOT"
  match ← oneOf? ["REGEXP", "RLIKE"] with
  | some k =>
    let p ← inner.exprAbove Level.pattern
    return .form [.operand left, .word (" " ++ notText negated ++ k ++ " "), .operand p]
  | none =>
    if ← keyword? "IN" then membership inner left negated
    else if ← keyword? "BETWEEN" then range inner left negated
    else
      match ← oneOf? ["LIKE", "ILIKE"] with
      | some k =>
        let any ← keyword? "ANY"
        pattern inner left (notText negated ++ k ++ if any then " ANY " else " ")
      | none =>
        keywords ["SIMILAR", "TO"]
        pattern inner left (notText negated ++ "SIMILAR TO ")

/-- An operator of the given level and its further operands. -/
def extension (inner : Inner) (level : Nat) (left : Expr) : Parse Expr := do
  if ← keyword? "DIV" then
    let right ← inner.expr
    return .binary left "DIV" right
  match ← peek? with
  | none => fail
  | some t =>
    match binaryOperator? t with
    | some operator =>
      let _ ← next
      match ← oneOf? ["ANY", "ALL", "SOME"] with
      | some k => quantified inner level left operator k
      | none =>
        let right ← inner.exprAbove level
        return .binary left operator right
    | none =>
      if ← keyword? "IS" then property inner left
      else if ← keyword? "AT" then
        keywords ["TIME", "ZONE"]
        let zone ← inner.exprAbove level
        return .form [.operand left, .word " AT TIME ZONE ", .operand zone]
      else if ← symbol? "::" then
        let t ← dataType
        return .form [.operand left, .word ("::" ++ t.render)]
      else negatable inner left

/-- Goes on with the operator ahead if it binds more tightly than `level`. -/
def extension? (inner : Inner) (level : Nat) (left : Expr) : Parse (Option Expr) := do
  let ahead ← levelAhead
  if ahead ≤ level then return none
  else if ← symbolAhead? "." then return none
  else
    let e ← extension inner ahead left
    return some e

/-- An expression whose operators bind more tightly than `level`. -/
def exprAbove (inner : Inner) (level : Nat) : Parse Expr := do
  let first ← collated inner
  let value ← extend (member? inner) first
  extend (extension? inner level) value

end ChangeFeed.Sql.Parse

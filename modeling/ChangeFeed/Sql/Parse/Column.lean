import ChangeFeed.Sql.Parse.Query
import ChangeFeed.Sql.Statement

/-!
# SQL: Reading columns and constraints

A column is a name, a type and any number of options in any order. A constraint of a table is told
from a column by its first word.
-/

namespace ChangeFeed.Sql.Parse

/-! ## References and characteristics -/

/-- What happens to a row when the row that it refers to changes. -/
def referentialAction : Parse Unit := do
  match ← firstOf? [["RESTRICT"], ["CASCADE"], ["SET", "NULL"], ["NO", "ACTION"],
      ["SET", "DEFAULT"]] with
  | some _ => return ()
  | none => fail

/-- What happens on deletion and on update, each said at most once and in any order. -/
def referentialActions : Parse Unit := do
  if ← keywords? ["ON", "DELETE"] then
    referentialAction
    if ← keywords? ["ON", "UPDATE"] then referentialAction
  else if ← keywords? ["ON", "UPDATE"] then
    referentialAction
    if ← keywords? ["ON", "DELETE"] then referentialAction

/-- Which of its characteristics a constraint has stated. -/
structure Stated where
  deferrable : Bool
  initially : Bool
  enforced : Bool

/-- Whether and when a constraint is checked; each characteristic is stated at most once. -/
def characteristics : (limit : Nat) → Stated → Parse Unit
  | 0, _ => return ()
  | limit + 1, s => do
    if !s.deferrable then
      match ← firstOf? [["NOT", "DEFERRABLE"], ["DEFERRABLE"]] with
      | some _ => return ← characteristics limit { s with deferrable := true }
      | none => pure ()
    if !s.initially then
      if ← keyword? "INITIALLY" then
        let _ ← oneOf ["DEFERRED", "IMMEDIATE"]
        return ← characteristics limit { s with initially := true }
    if !s.enforced then
      match ← firstOf? [["ENFORCED"], ["NOT", "ENFORCED"]] with
      | some _ => return ← characteristics limit { s with enforced := true }
      | none => pure ()

def constraintCharacteristics : Parse Unit := characteristics 3 ⟨false, false, false⟩

/-- What a foreign key refers to, behind the keyword. -/
def reference : Parse Unit := do
  let _ ← name
  let _ ← columns?
  referentialActions
  constraintCharacteristics

/-! ## Sequences -/

/-- A number behind its keyword and a word that may be missing. -/
def sequenceNumber? (k : String) (ks : List String) : Parse String := do
  if ← keyword? k then
    let words ← wordsAhead ks
    let n ← signedNumber
    return " " ++ k ++ words ++ " " ++ n
  else return ""

/-- A bound of a sequence, or the words that there is none. -/
def sequenceBound? (k : String) : Parse String := do
  let bound ← sequenceNumber? k []
  if bound.isEmpty then words? ["NO", k] else return bound

/-- The options of a sequence, in their fixed order. -/
def sequenceOptions : Parse String := do
  let increment ← sequenceNumber? "INCREMENT" ["BY"]
  let least ← sequenceBound? "MINVALUE"
  let greatest ← sequenceBound? "MAXVALUE"
  let start ← sequenceNumber? "START" ["WITH"]
  let cache ← sequenceNumber? "CACHE" []
  let cycle ← phrase? [["NO", "CYCLE"], ["CYCLE"]]
  return increment ++ least ++ greatest ++ start ++ cache ++ cycle

/-- The options of a sequence in parentheses, or nothing. -/
def sequenceOptions? : Parse Unit := do
  if ← symbolAhead? "(" then
    let _ ← parenthesized sequenceOptions

/-! ## Column options -/

/-- How the values of a generated column are kept. -/
def generationMode : Parse Unit := do
  let _ ← oneOf? ["STORED", "VIRTUAL"]

/-- What follows `GENERATED`. -/
def generated? (inner : Inner) : Parse (Option ColumnOption) := do
  match ← firstOf? [["ALWAYS", "AS", "IDENTITY"], ["BY", "DEFAULT", "AS", "IDENTITY"]] with
  | some _ =>
    sequenceOptions?
    return some .other
  | none =>
    if ← keywords? ["ALWAYS", "AS"] then
      if ← symbolAhead? "(" then
        let _ ← parenthesized inner.expr
        generationMode
        return some .other
      else return none
    else return none

/-- The options that end the list of alternatives. The words for an automatic number and for a sort
order are passed over. -/
def lateOption? (inner : Inner) : Parse (Option ColumnOption) := do
  let _ ← keyword? "AUTOINCREMENT"
  let _ ← keyword? "ASC"
  let _ ← keyword? "DESC"
  if ← keywords? ["ON", "UPDATE"] then
    let _ ← inner.expr
    return some .other
  else if ← keyword? "GENERATED" then generated? inner
  else if ← keyword? "AS" then
    let _ ← parenthesized inner.expr
    generationMode
    return some .other
  else
    let _ ← keyword? "IDENTITY"
    return none

def columnOption? (inner : Inner) : Parse (Option ColumnOption) := do
  if ← keywords? ["CHARACTER", "SET"] then
    let _ ← name
    return some .other
  else if ← keywords? ["NOT", "NULL"] then return some .notNull
  else if ← keyword? "COMMENT" then
    let _ ← literalText
    return some .other
  else if ← keyword? "NULL" then return some .nullable
  else if ← keyword? "DEFAULT" then
    let e ← inner.expr
    return some (.defaultsTo e)
  else if ← keywords? ["PRIMARY", "KEY"] then
    constraintCharacteristics
    return some .primaryKey
  else if ← keyword? "UNIQUE" then
    constraintCharacteristics
    return some .other
  else if ← keyword? "REFERENCES" then
    reference
    return some .other
  else if ← keyword? "CHECK" then
    let _ ← parenthesized inner.expr
    return some .other
  else if ← keyword? "AUTO_INCREMENT" then return some .other
  else lateOption? inner

/-- An option that may carry a name, or a collation. -/
def columnClause? (inner : Inner) : Parse (Option ColumnOption) := do
  if ← keyword? "CONSTRAINT" then
    let _ ← ident
    match ← columnOption? inner with
    | some o => return some o
    | none => fail
  else
    match ← columnOption? inner with
    | some o => return some o
    | none =>
      if ← keyword? "COLLATE" then
        let _ ← name
        return some .other
      else return none

def column (inner : Inner) : Parse Column := do
  let i ← ident
  let t ← dataType
  let _ ← after? "COLLATE" name
  let options ← many (columnClause? inner)
  return ⟨i, t, options⟩

/-! ## Constraints -/

def indexKind? : Parse Unit := do
  if ← keyword? "USING" then
    let _ ← oneOf ["BTREE", "HASH"]

def indexOption? : Parse (Option Unit) := do
  if ← keyword? "USING" then
    let _ ← oneOf ["BTREE", "HASH"]
    return some ()
  else if ← keyword? "COMMENT" then
    let _ ← literalText
    return some ()
  else return none

/-- The name, kind, columns and options of a key. -/
def key : Parse (List Ident) := do
  let _ ← ident?
  indexKind?
  let cs ← columns
  let _ ← many indexOption?
  constraintCharacteristics
  return cs

/-- A constraint behind its name, if it carries one. -/
def constraintBody? (inner : Inner) (named : Bool) : Parse (Option Constraint) := do
  if ← keyword? "UNIQUE" then
    let _ ← oneOf? ["KEY", "INDEX"]
    let _ ← firstOf? [["NULLS", "DISTINCT"], ["NULLS", "NOT", "DISTINCT"]]
    let _ ← key
    return some .other
  else if ← keyword? "PRIMARY" then
    keyword "KEY"
    let cs ← key
    return some (.primaryKey cs)
  else if ← keyword? "FOREIGN" then
    keyword "KEY"
    let _ ← columns
    keyword "REFERENCES"
    reference
    return some .other
  else if ← keyword? "CHECK" then
    let _ ← parenthesized inner.expr
    return some .other
  else if named then fail
  else if (← oneOf? ["INDEX", "KEY"]).isSome then
    if ← ahead? "USING" then pure ()
    else
      let _ ← ident?
    indexKind?
    let _ ← columns
    return some .other
  else if (← oneOf? ["FULLTEXT", "SPATIAL"]).isSome then
    let _ ← oneOf? ["KEY", "INDEX"]
    let _ ← ident?
    let _ ← columns
    return some .other
  else return none

/-- A constraint of a table, if one is ahead. -/
def constraint? (inner : Inner) : Parse (Option Constraint) := do
  if ← keyword? "CONSTRAINT" then
    let _ ← ident
    constraintBody? inner true
  else constraintBody? inner false

end ChangeFeed.Sql.Parse

/-!
# SQL: Names

Identifiers with the quote they were written in, dotted names, and the doubling of quotes inside
quoted text.
-/

namespace ChangeFeed.Sql

/-! ## Doubling quotes -/

/-- Every quote is written twice, except behind a backslash; two in a row stand as they are.
`previous` is the character before. -/
def doubleQuotes (quote previous : Char) : List Char → List Char
  | [] => []
  | [c] => if c = quote && previous ≠ '\\' then [c, c] else [c]
  | c :: d :: cs =>
    if c = quote then
      if previous = '\\' then c :: doubleQuotes quote previous (d :: cs)
      else if d = quote then c :: d :: doubleQuotes quote c cs
      else c :: c :: doubleQuotes quote c (d :: cs)
    else c :: doubleQuotes quote c (d :: cs)

/-- A text between quotes, the ones inside doubled. -/
def enquote (quote : Char) (text : String) : String :=
  String.ofList (quote :: doubleQuotes quote (Char.ofNat 0) text.toList ++ [quote])

/-! ## Identifiers -/

/-- An identifier and the quote it was written in, if any. -/
structure Ident where
  text : String
  quote : Option Char
  deriving DecidableEq, Repr

def Ident.render (i : Ident) : String :=
  match i.quote with
  | some q => enquote q i.text
  | none => i.text

/-- A name, and the names it is qualified with, outermost first. -/
structure Name where
  qualifiers : List Ident
  base : Ident
  deriving DecidableEq, Repr

namespace Name

def ofParts : Ident → List Ident → Name
  | i, [] => ⟨[], i⟩
  | i, j :: rest => let n := ofParts j rest; ⟨i :: n.qualifiers, n.base⟩

/-- All parts, outermost first. -/
def parts (n : Name) : List Ident := n.qualifiers ++ [n.base]

/-- A dotted name as it is written. -/
def render (n : Name) : String :=
  ".".intercalate (n.parts.map Ident.render)

end Name

end ChangeFeed.Sql

import ChangeFeed.Binary64.Shortest
import ChangeFeed.SortedMap
import ChangeFeed.Text.Quoted

/-!
# JSON values

Numbers are integers of 64 bits, of either sign, or floating-point numbers. The members of an object
are kept in increasing order of their keys.
-/

namespace ChangeFeed

/-- A JSON value. -/
inductive Json where
  | null
  | bool (value : Bool)
  | int (value : Int)
  | float (value : Binary64)
  | string (value : String)
  | array (items : List Json)
  | object (members : List (String × Json))
  deriving Repr

namespace Json

instance : Inhabited Json := ⟨.null⟩

/-! ## Objects -/

def ofMap (m : SortedMap Json) : Json := .object m.entries

/-- An object with the given members, in any order. -/
def ofMembers (members : List (String × Json)) : Json := ofMap (.ofList members)

/-- The member of an object. -/
def get? (v : Json) (key : String) : Option Json :=
  match v with
  | .object members => members.lookup key
  | _ => none

def text? : Json → Option String
  | .string s => some s
  | _ => none

def bool? : Json → Option Bool
  | .bool b => some b
  | _ => none

/-- The natural number of 64 bits that the value is. -/
def nat? : Json → Option Nat
  | .int n => if 0 ≤ n then some n.toNat else none
  | _ => none

/-- The value is neither an array nor an object. -/
def isPrimitive : Json → Bool
  | .array _ | .object _ => false
  | _ => true

mutual

/-- The members of every object in the value are in increasing order of their keys. -/
def Ordered : Json → Prop
  | .array items => OrderedItems items
  | .object members => (members.Pairwise fun a b => a.1 < b.1) ∧ OrderedMembers members
  | _ => True

def OrderedItems : List Json → Prop
  | [] => True
  | v :: vs => v.Ordered ∧ OrderedItems vs

def OrderedMembers : List (String × Json) → Prop
  | [] => True
  | m :: ms => m.2.Ordered ∧ OrderedMembers ms

end

end Json

end ChangeFeed

import ChangeFeed.Error
import ChangeFeed.Json.Print

/-!
# Stores

What a reader keeps between runs: JSON values under keys. A store is a state and three operations on
it; an operation that fails may have changed the state.
-/

namespace ChangeFeed

/-- An operation on a store. -/
abbrev Access (σ : Type) := ExceptT Error (StateM σ)

/-- A store of values under keys. -/
class Store (σ : Type) where
  get : String → Access σ (Option Json)
  /-- Puts a value under a key, instead of the one that is there. -/
  put : String → Json → Access σ Unit
  /-- Removes a key with its value, if it is there. -/
  remove : String → Access σ Unit

namespace Store

variable {σ : Type} [Store σ]

/-- The error of a value that is not of the expected kind. -/
def unexpected (expected key : String) (found : Json) : Error :=
  .state ("Expected " ++ expected ++ " under " ++ key ++ ", found " ++ found.render)

/-- A value that is a text; null is none. -/
def asText (key : String) : Option Json → Result (Option String)
  | none | some .null => .ok none
  | some (.string s) => .ok (some s)
  | some v => .error (unexpected "string" key v)

/-- A value that is a truth value; null is none. -/
def asTruth (key : String) : Option Json → Result (Option Bool)
  | none | some .null => .ok none
  | some (.bool b) => .ok (some b)
  | some v => .error (unexpected "bool" key v)

def getText (key : String) : Access σ (Option String) := do
  MonadExcept.ofExcept (asText key (← get key))

def getTruth (key : String) : Access σ (Option Bool) := do
  MonadExcept.ofExcept (asTruth key (← get key))

end Store

end ChangeFeed

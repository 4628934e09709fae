import ChangeFeed.Store

/-!
# Registration of sessions

A session is known to the engine by a name. It is chosen once and kept in the store, together with a
flag that tells whether the session runs for the first time.
-/

namespace ChangeFeed

/-- The name of a session, and whether it is new. -/
structure SessionRegistration where
  name : String
  firstTime : Bool
  deriving DecidableEq, Repr

namespace SessionRegistration

def nameKey : String := "SERVER_NAME"

def firstTimeKey : String := "FIRST_TIME"

/-- The registration in the store, or a new one with the name `fresh`, which is kept. -/
def ensure {σ : Type} [Store σ] (fresh : String) : Access σ SessionRegistration := do
  match ← Store.getText nameKey with
  | some name =>
    Store.put firstTimeKey (.bool false)
    return ⟨name, false⟩
  | none =>
    -- If the second put fails, the name stays, and the next registration finds it.
    Store.put nameKey (.string fresh)
    Store.put firstTimeKey (.bool true)
    return ⟨fresh, true⟩

end SessionRegistration

end ChangeFeed

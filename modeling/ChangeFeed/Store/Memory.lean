import ChangeFeed.Store

/-!
# Stores: Memory

A store that lives as long as the program. One kind never fails; the other refuses operations in a
pattern that is told beforehand, and counts the attempts to write.
-/

namespace ChangeFeed

/-! ## A store that never fails -/

/-- Values in memory. -/
structure MemoryStore where
  entries : SortedMap Json
  deriving Repr

namespace MemoryStore

/-- The store without values. -/
def empty : MemoryStore := ⟨.empty⟩

def size (s : MemoryStore) : Nat := s.entries.size

instance : Store MemoryStore where
  get key := do return (← getThe MemoryStore).entries.get? key
  put key value := modifyThe MemoryStore fun s => ⟨s.entries.insert key value⟩
  remove key := modifyThe MemoryStore fun s => ⟨s.entries.erase key⟩

end MemoryStore

/-! ## A store that refuses -/

/-- Values in memory, behind an access that may be refused. -/
structure GuardedStore where
  entries : SortedMap Json
  /-- Whether each of the next attempts to read is refused; those behind the last are not. -/
  readRefusals : List Bool
  /-- Whether each of the next attempts to write is refused; those behind the last are not. -/
  writeRefusals : List Bool
  writes : Nat
  deriving Repr

namespace GuardedStore

/-- The store with the given values, which refuses nothing. -/
def ofEntries (entries : SortedMap Json) : GuardedStore := ⟨entries, [], [], 0⟩

/-- The store that refuses the next attempts to read. -/
def refuseReads (s : GuardedStore) (n : Nat) : GuardedStore :=
  { s with readRefusals := List.replicate n true }

/-- The store that refuses the next attempts to write. -/
def refuseWrites (s : GuardedStore) (n : Nat) : GuardedStore :=
  { s with writeRefusals := List.replicate n true }

def read (s : GuardedStore) (key : String) : Result (Option Json) × GuardedStore :=
  (if s.readRefusals.headD false then .error (.state "get refused") else .ok (s.entries.get? key),
    { s with readRefusals := s.readRefusals.tail })

/-- An attempt to write comes in. -/
def announce (s : GuardedStore) : GuardedStore := { s with writes := s.writes + 1 }

/-- An attempt that came in is decided. -/
def settle (s : GuardedStore) (key : String) (value : Json) : Result Unit × GuardedStore :=
  let next := { s with writeRefusals := s.writeRefusals.tail }
  if s.writeRefusals.headD false then (.error (.state "put refused"), next)
  else (.ok (), { next with entries := s.entries.insert key value })

def write (s : GuardedStore) (key : String) (value : Json) : Result Unit × GuardedStore :=
  s.announce.settle key value

/-- Puts a value past the guard. -/
def place (s : GuardedStore) (key : String) (value : Json) : GuardedStore :=
  { s with entries := s.entries.insert key value }

/-- Removes a value past the guard. -/
def discard (s : GuardedStore) (key : String) : GuardedStore :=
  { s with entries := s.entries.erase key }

instance : Store GuardedStore where
  get key := ExceptT.mk fun s => s.read key
  put key value := ExceptT.mk fun s => s.write key value
  remove key := modifyThe GuardedStore (·.discard key)

end GuardedStore

end ChangeFeed

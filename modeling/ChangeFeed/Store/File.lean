import ChangeFeed.Directory
import ChangeFeed.Json.Decode
import ChangeFeed.Store

/-!
# Stores: Files

A store that outlives the program: one file for a key, in a directory of its own. A value is written
to another file first, which then takes the place of the old one. Answers come from memory, which is
filled when the store is opened and follows every operation that succeeds.
-/

namespace ChangeFeed

/-- Values in the files of a directory. -/
structure FileStore where
  directory : Directory
  /-- The values as they are answered. -/
  known : SortedMap Json
  deriving Repr

namespace FileStore

/-! ## Names of files -/

/-- A key that can be part of a file's name. -/
def isValidKey (key : String) : Bool :=
  !key.isEmpty && !key.toList.contains '/' && !key.toList.contains '\\' &&
    key.toList.head? != some '.'

/-- The error of a key that cannot be part of a file's name. -/
def invalidKey (key : String) : Error := .config ("Invalid state key: " ++ Text.quoted key)

/-- The end of the names of files that hold values. -/
def ending : List Char := ".json".toList

def fileName (key : String) : String := key ++ String.ofList ending

/-- The name of the file that is written first. -/
def draftName (key : String) : String := key ++ ".tmp"

def keyOf? (name : String) : Option String :=
  let stem := name.toList.take (name.toList.length - ending.length)
  -- A file that is nothing but the ending has no key.
  if stem.isEmpty ∨ stem ++ ending ≠ name.toList then none else some (String.ofList stem)

/-! ## Opening -/

def valueOf? : DirectoryEntry → Option Json
  | .file content => do (Json.parse (← Text.Utf8.text? content)).toOption
  | .directory => none

/-- The values in a directory. What cannot be read is passed over. -/
def valuesIn (d : Directory) : SortedMap Json :=
  .ofList (d.entries.filterMap fun e => do return (← keyOf? e.1, ← valueOf? e.2))

def ofDirectory (d : Directory) : FileStore := ⟨d, valuesIn d⟩

/-- The store after the program was started again. -/
def reopen (s : FileStore) : FileStore := ofDirectory s.directory

/-! ## Operations -/

def ioError (fault : FileFault) : Error := .io .other fault.message

def writing (key : String) (value : Json) : List Directory.Step :=
  [.truncate (draftName key), .append (draftName key) (Text.Utf8.encode value.pretty),
   .move (draftName key) (fileName key)]

def removing (d : Directory) (key : String) : Except FileFault (List Directory.Step) := do
  match ← d.find (fileName key) with
  | some _ => return [.unlink (fileName key)]
  | none => return []

def read (s : FileStore) (key : String) : Result (Option Json) :=
  if isValidKey key then .ok (s.known.get? key) else .error (invalidKey key)

/-- Takes steps and, if they succeed, changes what is answered. -/
def perform (s : FileStore) (steps : List Directory.Step) (known : SortedMap Json) :
    Result Unit × FileStore :=
  match s.directory.takeAll steps with
  | (.ok _, directory) => (.ok (), ⟨directory, known⟩)
  -- The steps in front of the failing one are done, but the answers stay.
  | (.error fault, directory) => (.error (ioError fault), ⟨directory, s.known⟩)

def write (s : FileStore) (key : String) (value : Json) : Result Unit × FileStore :=
  if isValidKey key then s.perform (writing key value) (s.known.insert key value)
  else (.error (invalidKey key), s)

def discard (s : FileStore) (key : String) : Result Unit × FileStore :=
  if isValidKey key then
    match removing s.directory key with
    | .ok steps => s.perform steps (s.known.erase key)
    | .error fault => (.error (ioError fault), s)
  else (.error (invalidKey key), s)

instance : Store FileStore where
  get key := ExceptT.mk fun s => (s.read key, s)
  put key value := ExceptT.mk fun s => s.write key value
  remove key := ExceptT.mk fun s => s.discard key

end FileStore

end ChangeFeed

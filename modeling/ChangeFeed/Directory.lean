import ChangeFeed.SortedMap
import ChangeFeed.Text.Utf8

/-!
# Directories

A directory as far as programs see it that keep plain files in it. What a program does to it are
single steps, so that one can also tell what an interruption between two of them leaves behind.
-/

namespace ChangeFeed

/-! ## Contents -/

/-- What stands under a name. -/
inductive DirectoryEntry where
  | file (content : List UInt8)
  | directory
  deriving DecidableEq, Repr

/-- What stands under the names of a directory. -/
abbrev Directory := SortedMap DirectoryEntry

/-- Why a step cannot be taken. -/
inductive FileFault where
  | nameTooLong
  | zeroInName
  | isDirectory
  | notFound
  deriving DecidableEq, Repr

def FileFault.message : FileFault → String
  | nameTooLong => "File name too long (os error 36)"
  | zeroInName => "file name contained an unexpected NUL byte"
  | isDirectory => "Is a directory (os error 21)"
  | notFound => "No such file or directory (os error 2)"

namespace Directory

/-- The number of bytes that a name may have. -/
def longestName : Nat := 255

def checkName (name : String) : Except FileFault Unit :=
  if name.toList.contains (Char.ofNat 0) then .error .zeroInName
  else if longestName < (Text.Utf8.encode name).length then .error .nameTooLong
  else .ok ()

def find (d : Directory) (name : String) : Except FileFault (Option DirectoryEntry) := do
  checkName name
  return d.get? name

def text? (d : Directory) (name : String) : Option String :=
  match d.get? name with
  | some (.file content) => Text.Utf8.text? content
  | _ => none

/-! ## Steps -/

/-- What can be done to a directory. -/
inductive Step where
  /-- Makes an empty file, or empties the one that is there. -/
  | truncate (name : String)
  /-- Writes behind what a file holds. -/
  | append (name : String) (content : List UInt8)
  /-- Gives a file another name, and with it the place of what stood there. -/
  | move (name target : String)
  /-- Removes a file. -/
  | unlink (name : String)
  deriving DecidableEq, Repr

def take (d : Directory) : Step → Except FileFault Directory
  | .truncate name => do
    match ← d.find name with
    | some .directory => throw .isDirectory
    | _ => return d.insert name (.file [])
  | .append name content => do
    match ← d.find name with
    | some (.file before) => return d.insert name (.file (before ++ content))
    | some .directory => throw .isDirectory
    | none => throw .notFound
  | .move name target => do
    match ← d.find name, ← d.find target with
    | none, _ => throw .notFound
    | some _, some .directory => throw .isDirectory
    | some e, _ => return (d.erase name).insert target e
  | .unlink name => do
    match ← d.find name with
    | some .directory => throw .isDirectory
    | some _ => return d.erase name
    | none => throw .notFound

/-- Takes steps up to the first that fails; what was done before stays done. -/
def takeAll (d : Directory) : List Step → Except FileFault Unit × Directory
  | [] => (.ok (), d)
  | step :: steps =>
    match d.take step with
    | .ok d => takeAll d steps
    | .error fault => (.error fault, d)

end Directory

end ChangeFeed

import ChangeFeed.Error
import ChangeFeed.Json.Decode

/-!
# Positions

A position in the stream is enough to resume reading right after an event. It maps the text of the
partition, a JSON object, to the text of the offset within it, another one; both objects are flat. A
coarse position, a file of the log and a place in it, is turned into one when the name of the
session and the server are known.
-/

namespace ChangeFeed

/-! ## Faults -/

/-- The two sides of an entry of a position. -/
inductive PositionPart where
  | partition
  | offset
  deriving DecidableEq, Repr

def PositionPart.name : PositionPart → String
  | partition => "partition"
  | offset => "offset"

/-- Why something is no position. -/
inductive PositionFault where
  | noFile
  | noEntries
  | empty (part : PositionPart)
  | notPrimitive (part : PositionPart) (key : String)
  | malformed (part : PositionPart) (cause : Json.Error)
  | notObject (part : PositionPart) (value : Json)
  deriving Repr

namespace PositionFault

def message : PositionFault → String
  | noFile => "binlog filename is empty"
  | noEntries => "offset map is empty"
  | empty part => part.name ++ " is empty"
  | notPrimitive part key => part.name ++ " value for '" ++ key ++ "' is not a primitive"
  | malformed part cause => part.name ++ " is not JSON: " ++ cause.message
  | notObject part value => part.name ++ " is not a JSON object: " ++ value.render

def toError (f : PositionFault) : Error := .invalidPosition f.message

/-- The wording ends with a place in a text. -/
def isPlaced : PositionFault → Bool
  | malformed _ cause => cause.place.isSome
  | _ => false

end PositionFault

/-! ## Flat objects -/

/-- An object is flat if it has members and none of them is an array or an object. -/
def checkFlat (part : PositionPart) (object : SortedMap Json) : Except PositionFault Unit :=
  if object.isEmpty then .error (.empty part)
  else
    match object.entries.find? fun e => !e.2.isPrimitive with
    | some e => .error (.notPrimitive part e.1)
    | none => .ok ()

def flatText (object : SortedMap Json) : String := (Json.ofMap object).render

def parseFlat (part : PositionPart) (text : String) : Except PositionFault (SortedMap Json) :=
  match Json.parse text with
  | .error cause => .error (.malformed part cause)
  | .ok (.object members) => do
    let object := SortedMap.ofList members
    checkFlat part object
    return object
  | .ok v => .error (.notObject part v)

/-! ## Positions -/

/-- A file of the log and a place in it. -/
structure LogPosition where
  file : String
  place : UInt64
  deriving DecidableEq, Repr

def LogPosition.text (p : LogPosition) : String := p.file ++ ":" ++ toString p.place.toNat

/-- A position in the stream. -/
structure ResumePoint where
  name : String
  offset : SortedMap String
  deriving DecidableEq, Repr

namespace ResumePoint

/-- The position with the given entries, which are checked. -/
def ofWire (name : String) (offset : SortedMap String) : Except PositionFault ResumePoint := do
  if offset.isEmpty then throw .noEntries
  offset.entries.forM fun e => do
    let _ ← parseFlat .partition e.1
    let _ ← parseFlat .offset e.2
  return ⟨name, offset⟩

/-- The position with one entry, as the log tells it. -/
def ofSource (name : String) (sourcePartition offset : SortedMap Json) :
    Except PositionFault ResumePoint := do
  checkFlat .partition sourcePartition
  checkFlat .offset offset
  return ⟨name, .single (flatText sourcePartition) (flatText offset)⟩

def entries (p : ResumePoint) :
    Except PositionFault (List (SortedMap Json × SortedMap Json)) :=
  p.offset.entries.mapM fun e => do
    let sourcePartition ← parseFlat .partition e.1
    let offset ← parseFlat .offset e.2
    return (sourcePartition, offset)

/-- The coarse position, if the offset of the first entry tells one. -/
def logPosition? (p : ResumePoint) : Option LogPosition := do
  let entries ← p.entries.toOption
  let (_, offset) ← entries.head?
  let file ← (offset.get? "file").bind Json.text?
  let place ← (offset.get? "pos").bind Json.nat?
  return ⟨file, UInt64.ofNat place⟩

def wireText (p : ResumePoint) : String :=
  (Json.ofMap (p.offset.mapValues fun _ text => .string text)).render

/-- The text of a position for people. -/
def text (p : ResumePoint) : String :=
  p.name ++ String.join (p.offset.entries.map fun e => " " ++ e.1 ++ "=" ++ e.2)

end ResumePoint

/-! ## Starting points -/

def sessionPartition (session : String) : SortedMap Json := .single "server" (.string session)

def LogPosition.sourceOffset (p : LogPosition) (server : UInt32) : SortedMap Json :=
  .ofList
    [("file", .string p.file), ("pos", .int p.place.toNat), ("server_id", .int server.toNat)]

/-- The position of a session that a coarse position stands for. -/
def LogPosition.toStream (p : LogPosition) (session : String) (server : UInt32) :
    Except PositionFault ResumePoint :=
  if p.file.isEmpty then .error .noFile
  else ResumePoint.ofSource session (sessionPartition session) (p.sourceOffset server)

/-- Where a session starts to read. -/
inductive StartingPoint where
  | log (position : LogPosition)
  | stream (position : ResumePoint)
  deriving DecidableEq, Repr

def StartingPoint.resolve (start : StartingPoint) (session : String) (server : UInt32) :
    Except PositionFault ResumePoint :=
  match start with
  | .log p => p.toStream session server
  | .stream p => .ok p

end ChangeFeed

import ChangeFeed.Position

/-!
# Positions: JSON

A position in the stream is checked when it is decoded. Where a session starts is told by the shape
of the value alone.
-/

namespace ChangeFeed

open Json (Decode)
open Json.Fields (required)

/-- The JSON form of a coarse position. -/
def LogPosition.toJson (p : LogPosition) : Json :=
  .object [("filename", .string p.file), ("position", .int p.place.toNat)]

def LogPosition.decode : Decode LogPosition :=
  (LogPosition.mk <$> required "filename" Json.decodeString
    <*> required "position" Json.decodeUInt64).decode "struct BinlogPosition"

/-- The JSON form of a position. -/
def ResumePoint.toJson (p : ResumePoint) : Json :=
  .object
    [("name", .string p.name), ("offset", .ofMap (p.offset.mapValues fun _ text => .string text))]

/-- The name and the entries of a position, not yet checked. -/
def ResumePoint.decodeParts : Decode (String × SortedMap String) :=
  (Prod.mk <$> required "name" Json.decodeString
    <*> required "offset" (Json.decodeMap Json.decodeString)).decode "struct RawStreamPosition"

def ResumePoint.decode : Decode ResumePoint :=
  Json.decodeThen decodeParts fun (name, offset) =>
    match ofWire name offset with
    | .ok p => .ok p
    | .error fault => Json.refuse (.other fault.toError.message fault.isPlaced)

def StartingPoint.toJson : StartingPoint → Json
  | .log p => p.toJson
  | .stream p => p.toJson

def StartingPoint.decode : Decode StartingPoint :=
  Json.decodeFirst "StartPosition"
    [Json.decodeAs .log LogPosition.decode, Json.decodeAs .stream ResumePoint.decode]

end ChangeFeed

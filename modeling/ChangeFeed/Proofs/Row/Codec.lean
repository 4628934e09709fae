import ChangeFeed.Proofs.Instant
import ChangeFeed.Proofs.Json.Fields
import ChangeFeed.Row.Codec

/-!
# Rows: JSON: Round trip

The values of a row are decoded as what they were, kind by kind. Floating-point numbers are left
out, and so is JSON that is nested more deeply than a reader follows.
-/

namespace ChangeFeed

open Json (Decode Decodes Fits)

/-! ## Contents -/

/-- A JSON value without floating-point numbers, nested at most 100 deep. The members of its objects
are in order, as they always are when a value was read. -/
structure Json.IsPayload (v : Json) : Prop where
  ordered : v.Ordered
  fits : v.Fits 100

theorem decodes_bytes (bytes : List UInt8) : Decodes decodeBytes (bytesToJson bytes) bytes :=
  .list fun b _ => Json.decodes_byte b

/-- Bytes are a list of small numbers. -/
theorem fits_bytes (bytes : List UInt8) : (bytesToJson bytes).Fits 1 := by
  refine Json.fits_array fun v hv => ?_
  obtain ⟨b, -, rfl⟩ := List.mem_map.1 hv
  exact Json.fits_byte 0 b

/-- A point in time is decoded from its text. -/
theorem decodes_instant (t : Instant) : Decodes decodeInstant (.string t.text) t := by
  intro o doc h
  cases h with
  | leaf => simp only [decodeInstant, Instant.readLenient_text]

/-- A value with its kind is one level deeper than the value. -/
theorem fits_tagged (kind : String) {n : Nat} {content : Json} (h : content.Fits n) :
    (tagged kind content).Fits (n + 1) :=
  Json.fits_object (List.forall_mem_cons.2
    ⟨Json.fits_string n kind, List.forall_mem_cons.2 ⟨h, nofun⟩⟩)

/-- A kind is looked up, and its content is decoded. -/
theorem decodes_tagged {α : Type} {typeName kind name : String}
    {known : List (String × String × Json.Content α)} {decode : Decode α} {content : Json} {a : α}
    (h : known.lookup kind = some (name, .content decode)) (hcontent : Decodes decode content a) :
    Decodes (Json.decodeBeside ⟨typeName, "type", "value"⟩ known) (tagged kind content) a :=
  Json.decodes_beside h (show "value" ≠ "type" by decide) hcontent

/-- A missing value is its kind alone. -/
theorem fits_kind (n : Nat) (kind : String) : (Json.object [("type", .string kind)]).Fits (n + 1) :=
  Json.fits_object (List.forall_mem_singleton.2 (Json.fits_string n kind))

/-! ## Raw values -/

namespace LoggedValue

/-- The value is no floating-point number, and if it is JSON, it is one that can be read back. -/
def IsPortable : LoggedValue → Prop
  | .float64 _ => False
  | .json v => v.IsPayload
  | _ => True

/-- A value of the log is decoded as itself, by its kind. -/
theorem decodes (v : LoggedValue) (h : v.IsPortable) : Decodes decode v.toJson v := by
  cases v with
  | null => exact Json.decodes_beside_unit (b := ⟨"RawValue", "type", "value"⟩) rfl
  | boolean b => exact decodes_tagged rfl ((Json.decodes_bool b).as boolean)
  | int32 n => exact decodes_tagged rfl ((Json.decodes_int32 n).as int32)
  | int64 n => exact decodes_tagged rfl ((Json.decodes_int64 n).as int64)
  | float64 x => exact h.elim
  | decimal s => exact decodes_tagged rfl ((Json.decodes_string s).as decimal)
  | string s => exact decodes_tagged rfl ((Json.decodes_string s).as string)
  | bytes bs => exact decodes_tagged rfl ((decodes_bytes bs).as bytes)
  | json v => exact decodes_tagged rfl ((Json.decodes_any h.ordered).as json)

/-- A value of the log fits, however deep its JSON is as far as it may. -/
theorem fits (v : LoggedValue) (h : v.IsPortable) : v.toJson.Fits 101 := by
  cases v with
  | null => exact fits_kind 100 "null"
  | boolean b => exact fits_tagged "boolean" (Json.fits_bool 100 b)
  | int32 n => exact fits_tagged "int32" (Json.fits_int32 100 n)
  | int64 n => exact fits_tagged "int64" (Json.fits_int64 100 n)
  | float64 x => exact h.elim
  | decimal s => exact fits_tagged "decimal" (Json.fits_string 100 s)
  | string s => exact fits_tagged "string" (Json.fits_string 100 s)
  | bytes bs => exact fits_tagged "bytes" ((fits_bytes bs).mono (by decide))
  | json v => exact fits_tagged "json" h.fits

end LoggedValue

/-- Every value of a raw row can be read back. -/
def LoggedRow.IsPortable (r : LoggedRow) : Prop := ∀ column ∈ r.entries, column.2.IsPortable

theorem LoggedRow.decodes {r : LoggedRow} (h : LoggedRow.IsPortable r) :
    Decodes LoggedRow.decode (LoggedRow.toJson r) r :=
  .map fun column hcolumn => column.2.decodes (h column hcolumn)

theorem LoggedRow.fits {r : LoggedRow} (h : LoggedRow.IsPortable r) :
    (LoggedRow.toJson r).Fits 102 :=
  Json.fits_map fun column hcolumn => column.2.fits (h column hcolumn)

/-! ## Values -/

namespace Value

/-- The value is no floating-point number, and if it is JSON, it is one that can be read back. -/
def IsPortable : Value → Prop
  | .float _ => False
  | .json v => v.IsPayload
  | _ => True

/-- A value of an event is decoded as itself, by its kind. -/
theorem decodes (v : Value) (h : v.IsPortable) : Decodes decode v.toJson v := by
  cases v with
  | null => exact Json.decodes_beside_unit (b := ⟨"FieldValue", "type", "value"⟩) rfl
  | bool b => exact decodes_tagged rfl ((Json.decodes_bool b).as bool)
  | int n => exact decodes_tagged rfl ((Json.decodes_int64 n).as int)
  | float x => exact h.elim
  | decimal s => exact decodes_tagged rfl ((Json.decodes_string s).as decimal)
  | string s => exact decodes_tagged rfl ((Json.decodes_string s).as string)
  | bytes bs => exact decodes_tagged rfl ((decodes_bytes bs).as bytes)
  | instant t => exact decodes_tagged rfl ((decodes_instant t).as instant)
  | json v => exact decodes_tagged rfl ((Json.decodes_any h.ordered).as json)

/-- A value of an event fits, too. -/
theorem fits (v : Value) (h : v.IsPortable) : v.toJson.Fits 101 := by
  cases v with
  | null => exact fits_kind 100 "null"
  | bool b => exact fits_tagged "bool" (Json.fits_bool 100 b)
  | int n => exact fits_tagged "int" (Json.fits_int64 100 n)
  | float x => exact h.elim
  | decimal s => exact fits_tagged "decimal" (Json.fits_string 100 s)
  | string s => exact fits_tagged "string" (Json.fits_string 100 s)
  | bytes bs => exact fits_tagged "bytes" ((fits_bytes bs).mono (by decide))
  | instant t => exact fits_tagged "instant" (Json.fits_string 100 t.text)
  | json v => exact fits_tagged "json" h.fits

end Value

/-- Every value of a row can be read back. -/
def Row.IsPortable (r : Row) : Prop := ∀ column ∈ r.entries, column.2.IsPortable

theorem Row.decodes {r : Row} (h : Row.IsPortable r) : Decodes Row.decode (Row.toJson r) r :=
  .map fun column hcolumn => column.2.decodes (h column hcolumn)

theorem Row.fits {r : Row} (h : Row.IsPortable r) : (Row.toJson r).Fits 102 :=
  Json.fits_map fun column hcolumn => column.2.fits (h column hcolumn)

end ChangeFeed

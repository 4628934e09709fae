import ChangeFeed.Event.Codec
import ChangeFeed.Proofs.Row.Codec
import ChangeFeed.Proofs.Schema.Codec
import ChangeFeed.Record.Codec

/-!
# Events and records: JSON: Round trip

An event or a record of the log that was written as JSON is read as what it was, as long as it holds
no floating-point number and no JSON that is nested too deeply for a reader.

## Main results

* `TableEvent.decodes`, `LogRecord.decodes`: the members of an event and of a record are decoded.
* `events_and_records_read_back`: the text of an event or a record of the log is read back.
-/

namespace ChangeFeed

open Json (Decodes Fits)
open Json.Fields (builds_pure)

/-! ## Events -/

namespace TableEvent

/-- The rows of an event, the one before the change first. -/
def rows (e : TableEvent) : List Row := e.before?.toList ++ e.after?.toList

/-- Every row of the event can be read back. -/
def IsPortable (e : TableEvent) : Prop := ∀ row ∈ e.rows, Row.IsPortable row

/-- An event that can be written in JSON is decoded as itself. -/
theorem decodes {e : TableEvent} (h : e.IsPortable) : Decodes decode e.toJson e := by
  cases e with
  | insert table after time =>
    have hafter : Row.IsPortable after := h after (by simp [rows, before?, after?])
    refine Json.decodes_within rfl (by simp) (Json.Fields.Builds.decodes ?_ _)
    exact builds_pure insert
      |>.present rfl (Json.decodes_string table)
      |>.present rfl (Row.decodes hafter)
      |>.present rfl (Json.decodes_int64 time)
  | update table before after time =>
    have hafter : Row.IsPortable after := h after (by simp [rows, before?, after?])
    have hbefore : ∀ row ∈ before, Row.IsPortable row := fun row hrow =>
      h row (by simp [rows, before?, after?, Option.mem_def.1 hrow])
    refine Json.decodes_within rfl (by cases before <;> simp) (Json.Fields.Builds.decodes ?_ _)
    -- A row that is there but empty has a member, and one that was not kept has none.
    cases before with
    | none =>
      exact builds_pure update
        |>.present rfl (Json.decodes_string table)
        |>.missing none
        |>.present rfl (Row.decodes hafter)
        |>.present rfl (Json.decodes_int64 time)
    | some row =>
      exact builds_pure update
        |>.present rfl (Json.decodes_string table)
        |>.present rfl ((Row.decodes (hbefore row rfl)).option nofun)
        |>.present rfl (Row.decodes hafter)
        |>.present rfl (Json.decodes_int64 time)
  | delete table before time =>
    have hbefore : Row.IsPortable before := h before (by simp [rows, before?, after?])
    refine Json.decodes_within rfl (by simp) (Json.Fields.Builds.decodes ?_ _)
    exact builds_pure delete
      |>.present rfl (Json.decodes_string table)
      |>.present rfl (Row.decodes hbefore)
      |>.present rfl (Json.decodes_int64 time)
  | schemaChange table operation time =>
    refine Json.decodes_within rfl (by simp) (Json.Fields.Builds.decodes ?_ _)
    exact builds_pure schemaChange
      |>.present rfl (Json.decodes_string table)
      |>.present rfl operation.decodes
      |>.present rfl (Json.decodes_int64 time)

/-- An event holds at most two rows. -/
theorem fits {e : TableEvent} (h : e.IsPortable) : e.toJson.Fits 103 := by
  -- Rows are the deepest part of an event, and they stand one level below it.
  have hrow : ∀ row ∈ e.rows, (Row.toJson row).Fits 102 := fun row hrow => Row.fits (h row hrow)
  cases e with
  | insert table after time =>
    exact Json.fits_object (by simpa [rows, before?, after?] using hrow)
  | update table before after time =>
    refine Json.fits_object ?_
    cases before <;> simpa [rows, before?, after?] using hrow
  | delete table before time =>
    exact Json.fits_object (by simpa [rows, before?, after?] using hrow)
  | schemaChange table operation time =>
    exact Json.fits_object (by simp [operation.fits.mono])

theorem decodeText_render {e : TableEvent} (h : e.IsPortable) :
    Json.decodeText decode e.toJson.render = .ok e :=
  (decodes h).decodeText_render (fits h) (by decide)

end TableEvent

/-! ## Records -/

theorem optionalMember_map {α : Type} (name : String) (x : Option α) (f : α → Json) :
    optionalMember name (x.map f) = (x.map fun a => (name, f a)).toList := by
  cases x <;> rfl

/-- A member that may be left out has a property if its value has it. -/
theorem forall_mem_optionalMember {α : Type} {name : String} {x : Option α} {f : α → Json}
    {p : String × Json → Prop} :
    (∀ m ∈ optionalMember name (x.map f), p m) ↔ ∀ a ∈ x, p (name, f a) := by
  cases x <;> simp [optionalMember]

/-- What is said of the source of a record is decoded as it was. -/
theorem Source.decodes (s : Source) : Decodes Source.decode s.toJson s := by
  simp only [toJson, optionalMember_map]
  refine Json.Fields.Builds.decodes ?_ _
  exact builds_pure Source.mk
    |>.present rfl (Json.decodes_int64 s.time)
    |>.optional rfl s.database (fun db _ => ⟨Json.decodes_string db, nofun⟩)
    |>.optional rfl s.table (fun table _ => ⟨Json.decodes_string table, nofun⟩)

/-- A source holds plain values only. -/
theorem Source.fits (s : Source) : s.toJson.Fits 1 := by
  refine Json.fits_object ?_
  simp only [List.forall_mem_append, List.forall_mem_cons, forall_mem_optionalMember]
  simp

namespace Payload

/-- The rows that a record tells of, the one before the change first. -/
def rows (p : Payload) : List LoggedRow := p.before.toList ++ p.after.toList

/-- Every row of the record can be read back. -/
def IsPortable (p : Payload) : Prop := ∀ row ∈ p.rows, LoggedRow.IsPortable row

/-- The content of a record is decoded as it was, with its rows where there are any. -/
theorem decodes {p : Payload} (h : p.IsPortable) : Decodes decode p.toJson p := by
  -- Each image is portable, being one of the rows of the payload.
  have hbefore : ∀ row ∈ p.before, LoggedRow.IsPortable row := fun row hrow =>
    h row (by simp [rows, Option.mem_def.1 hrow])
  have hafter : ∀ row ∈ p.after, LoggedRow.IsPortable row := fun row hrow =>
    h row (by simp [rows, Option.mem_def.1 hrow])
  simp only [toJson, optionalMember_map]
  refine Json.Fields.Builds.decodes ?_ _
  exact builds_pure Payload.mk
    |>.optional rfl p.code (fun code _ => ⟨Json.decodes_string code, nofun⟩)
    |>.optional rfl p.before (fun row hrow => ⟨LoggedRow.decodes (hbefore row hrow), nofun⟩)
    |>.optional rfl p.after (fun row hrow => ⟨LoggedRow.decodes (hafter row hrow), nofun⟩)
    |>.optional rfl p.ddl (fun ddl _ => ⟨Json.decodes_string ddl, nofun⟩)
    |>.present rfl p.source.decodes

/-- The content of a record holds at most two rows as well. -/
theorem fits {p : Payload} (h : p.IsPortable) : p.toJson.Fits 103 := by
  have hrow : ∀ row ∈ p.rows, (LoggedRow.toJson row).Fits 102 := fun row hrow =>
    LoggedRow.fits (h row hrow)
  simp only [rows, List.forall_mem_append, Option.mem_toList] at hrow
  refine Json.fits_object ?_
  simp only [List.forall_mem_append, List.forall_mem_singleton, forall_mem_optionalMember]
  exact ⟨⟨⟨⟨by simp, hrow.1⟩, hrow.2⟩, by simp⟩, p.source.fits.mono (by decide)⟩

end Payload

/-- Every value of a map can be read back. -/
def HasPayloads (m : SortedMap Json) : Prop := ∀ e ∈ m.entries, e.2.IsPayload

/-- Payloads are whatever the engine says they are, and stay so. -/
theorem decodes_payloads {m : SortedMap Json} (h : HasPayloads m) :
    Decodes (Json.decodeMap Json.decodeAny) (.ofMap m) m := by
  have hmap : Decodes (Json.decodeMap Json.decodeAny) (.ofMap (m.mapValues fun _ v => v)) m :=
    .map fun e he => Json.decodes_any (h e he).ordered
  rwa [m.mapValues_self] at hmap

theorem fits_payloads {m : SortedMap Json} (h : HasPayloads m) : (Json.ofMap m).Fits 101 :=
  Json.fits_object fun e he => (h e he).fits

namespace LogRecord

/-- The record can be read back: where it was found, and the rows that it tells of. -/
structure IsPortable (r : LogRecord) : Prop where
  partition : HasPayloads r.partition
  offset : HasPayloads r.offset
  payload : ∀ p ∈ r.payload, p.IsPortable

/-- A record is decoded as itself. -/
theorem decodes {r : LogRecord} (h : r.IsPortable) : Decodes decode r.toJson r := by
  simp only [toJson, optionalMember_map]
  refine Json.Fields.Builds.decodes ?_ _
  exact builds_pure LogRecord.mk
    |>.present rfl (decodes_payloads h.partition)
    |>.present rfl (decodes_payloads h.offset)
    |>.optional rfl r.payload fun p hp => ⟨Payload.decodes (h.payload p hp), nofun⟩

/-- A record is its content, beside its partition and its offset. -/
theorem fits {r : LogRecord} (h : r.IsPortable) : r.toJson.Fits 104 := by
  refine Json.fits_object ?_
  simp only [List.forall_mem_append, List.forall_mem_cons, forall_mem_optionalMember]
  exact ⟨⟨(fits_payloads h.partition).mono (by decide), (fits_payloads h.offset).mono (by decide),
    nofun⟩, fun p hp => Payload.fits (h.payload p hp)⟩

theorem decodeText_render {r : LogRecord} (h : r.IsPortable) :
    Json.decodeText decode r.toJson.render = .ok r :=
  (decodes h).decodeText_render (fits h) (by decide)

end LogRecord

/-! ## Texts -/

/-- **Round trip**: the text of an event is decoded to the event, and the text of a record of the
log to the record. No other event and no other record has the text, so a row that is there but empty
stays apart from one that was not kept, bytes from texts, and the JSON null from a missing value. -/
theorem events_and_records_read_back {e : TableEvent} {r : LogRecord} (he : e.IsPortable)
    (hr : r.IsPortable) :
    Json.decodeText TableEvent.decode e.toJson.render = .ok e ∧
      Json.decodeText LogRecord.decode r.toJson.render = .ok r ∧
      (∀ e' : TableEvent, e'.IsPortable → e'.toJson.render = e.toJson.render → e' = e) ∧
      ∀ r' : LogRecord, r'.IsPortable → r'.toJson.render = r.toJson.render → r' = r := by
  have hevent := TableEvent.decodeText_render he
  have hrecord := LogRecord.decodeText_render hr
  refine ⟨hevent, hrecord, fun e' he' hsame => ?_, fun r' hr' hsame => ?_⟩
  -- One text is decoded to one event.
  · rw [← hsame, TableEvent.decodeText_render he'] at hevent
    exact Except.ok.inj hevent
  · rw [← hsame, LogRecord.decodeText_render hr'] at hrecord
    exact Except.ok.inj hrecord

/-- A row with a missing value, the JSON null and bytes that are no text. -/
def sparseRow : Row :=
  ⟨[("blob", .bytes [0, 255]), ("data", .json .null), ("name", .null)], by decide⟩

/-- An update with a row before the change that is there but empty. -/
def emptiedUpdate : TableEvent := .update "users" (some .empty) sparseRow 1700000000000

/-- A record with a row before the change that is there but empty. -/
def emptiedRecord : LogRecord where
  partition := .single "server" (.string "a \"b\"")
  offset := .single "pos" (.int 18446744073709551615)
  payload := some ⟨some "u", some .empty, some (.single "data" (.json (.array []))), none, .unknown⟩

theorem emptied_reads_back :
    Json.decodeText TableEvent.decode emptiedUpdate.toJson.render = .ok emptiedUpdate ∧
      Json.decodeText LogRecord.decode emptiedRecord.toJson.render = .ok emptiedRecord ∧
      (TableEvent.update "users" none sparseRow 1700000000000).toJson.render ≠
        emptiedUpdate.toJson.render := by
  -- What the values hold is portable by itself; the rows and the payload follow from it.
  have hnull : Json.null.IsPayload := ⟨trivial, trivial, Nat.zero_le _⟩
  have hserver : (Json.string "a \"b\"").IsPayload := ⟨trivial, trivial, Nat.zero_le _⟩
  have hplace : (Json.int 18446744073709551615).IsPayload :=
    ⟨trivial, Json.fits_int 100 (by decide)⟩
  have harray : (Json.array []).IsPayload := ⟨trivial, trivial, by decide⟩
  have hsparse : Row.IsPortable sparseRow := by
    simp [Row.IsPortable, sparseRow, Value.IsPortable, hnull]
  have hempty : Row.IsPortable .empty := by simp [Row.IsPortable, SortedMap.empty]
  have hevent : emptiedUpdate.IsPortable := by
    simp [TableEvent.IsPortable, TableEvent.rows, emptiedUpdate, TableEvent.before?,
      TableEvent.after?, hsparse, hempty]
  have hafter : LoggedRow.IsPortable (.single "data" (.json (.array []))) := by
    simp [LoggedRow.IsPortable, SortedMap.single, LoggedValue.IsPortable, harray]
  have hrecord : emptiedRecord.IsPortable := by
    refine ⟨?_, ?_, ?_⟩
    · simp [HasPayloads, emptiedRecord, SortedMap.single, hserver]
    · simp [HasPayloads, emptiedRecord, SortedMap.single, hplace]
    · rintro p ⟨⟩ row hrow
      rcases List.mem_cons.1 hrow with rfl | hrow
      · simp [LoggedRow.IsPortable, SortedMap.empty]
      · rw [List.mem_singleton.1 hrow]
        exact hafter
  obtain ⟨hdecode, hdecode', hsame, -⟩ := events_and_records_read_back hevent hrecord
  refine ⟨hdecode, hdecode', fun htext => ?_⟩
  -- The other update has no image before, so it is another event and cannot have the same text.
  have hnone : (TableEvent.update "users" none sparseRow 1700000000000).IsPortable := by
    simp [TableEvent.IsPortable, TableEvent.rows, TableEvent.before?, TableEvent.after?, hsparse]
  cases hsame _ hnone htext

end ChangeFeed

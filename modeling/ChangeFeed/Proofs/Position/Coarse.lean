import ChangeFeed.Proofs.Position.Codec

/-!
# Positions: Coarse positions

A file of the log and a place in it become the position of a session: its partition tells the
session, its offset tells the file, the place and the server. Names and numbers go through two
layers of JSON text, and all of them can be told again from the result.

## Main results

* `LogPosition.toStream_eq_ok_iff`: when a coarse position becomes a position, and which.
* `LogPosition.eq_of_wireText_eq`: what is handed to the engine tells the four parts apart.
* `LogPosition.toStream_is_lossless`: the conversion as a whole.
-/

namespace ChangeFeed

/-! ## The text for the engine -/

namespace ResumePoint

variable {q q' : ResumePoint} {origin origin' offset offset' : SortedMap Json}

/-- Entries can be told from the text that the engine is given, if there are any. -/
theorem offset_eq_of_wireText_eq (hq : q.offset.entries ≠ []) (hq' : q'.offset.entries ≠ [])
    (h : q.wireText = q'.wireText) : q.offset = q'.offset := by
  have hflat : ∀ m : SortedMap String, m.entries ≠ [] →
      (m.mapValues fun _ text => Json.string text).IsFlat := by
    intro m hm
    constructor
    · simpa [SortedMap.mapValues] using hm
    · intro e he
      obtain ⟨d, -, rfl⟩ := List.mem_map.1 he
      trivial
  -- The text is that of a flat object, whose members are texts.
  have hmaps := flatText_injective (hflat q.offset hq) (hflat q'.offset hq') h
  have hinjective : Function.Injective fun e : String × String => (e.1, Json.string e.2) := by
    rintro ⟨k, a⟩ ⟨k', a'⟩ he
    simpa using he
  apply SortedMap.ext
  exact List.map_injective_iff.2 hinjective (congrArg SortedMap.entries hmaps)

/-- So can the two objects of a position that has a single entry. -/
theorem HoldsFlat.eq_of_wireText_eq (h : q.HoldsFlat origin offset)
    (h' : q'.HoldsFlat origin' offset') (htext : q.wireText = q'.wireText) :
    origin = origin' ∧ offset = offset' := by
  have hoffset : q.offset = q'.offset := by
    apply offset_eq_of_wireText_eq _ _ htext
    · rw [h.offset_eq]
      exact List.cons_ne_nil _ _
    · rw [h'.offset_eq]
      exact List.cons_ne_nil _ _
  rw [h.offset_eq, h'.offset_eq] at hoffset
  obtain ⟨horigin, hwithin⟩ :
      flatText origin = flatText origin' ∧ flatText offset = flatText offset' := by
    simpa [SortedMap.single] using hoffset
  -- Each text is read as the object that it was written from.
  constructor
  · have hread := h'.origin
    rw [← horigin, h.origin] at hread
    exact Except.ok.inj hread
  · have hread := h'.offset
    rw [← hwithin, h.offset] at hread
    exact Except.ok.inj hread

end ResumePoint

namespace LogPosition

variable {p p' : LogPosition} {session session' : String} {server server' : UInt32}
  {q q' : ResumePoint}

/-! ## The two objects -/

/-- The members of an offset, in the order of their keys. -/
def offsetMembers (p : LogPosition) (server : UInt32) : List (String × Json) :=
  [("file", .string p.file), ("pos", .int p.place.toNat), ("server_id", .int server.toNat)]

theorem entries_sessionPartition (session : String) :
    (sessionPartition session).entries = [("server", .string session)] := rfl

/-- The three entries of an offset stand in the order of their names. -/
theorem entries_sourceOffset (p : LogPosition) (server : UInt32) :
    (p.sourceOffset server).entries = p.offsetMembers server := by
  have hsorted : (p.offsetMembers server).Pairwise fun a b => a.1 < b.1 := by
    refine .cons ?_ (.cons ?_ (.cons nofun .nil))
    · have hfile : "file" < "pos" ∧ "file" < "server_id" := by decide
      rw [List.forall_mem_cons, List.forall_mem_singleton]
      exact hfile
    · have hpos : "pos" < "server_id" := by decide
      rw [List.forall_mem_singleton]
      exact hpos
  exact congrArg SortedMap.entries (SortedMap.ofList_entries ⟨p.offsetMembers server, hsorted⟩)

/-- A partition is flat. -/
theorem hasOnlyPrimitives_sessionPartition (session : String) :
    HasOnlyPrimitives (sessionPartition session) := by
  rw [HasOnlyPrimitives, entries_sessionPartition]
  simp [Json.isPrimitive]

/-- So is an offset. -/
theorem hasOnlyPrimitives_sourceOffset (p : LogPosition) (server : UInt32) :
    HasOnlyPrimitives (p.sourceOffset server) := by
  rw [HasOnlyPrimitives, entries_sourceOffset]
  simp [offsetMembers, Json.isPrimitive]

/-- Its name is read back as it was. -/
theorem exact_sessionPartition (session : String) :
    ∀ e ∈ (sessionPartition session).entries, e.2.Exact := by
  rw [entries_sessionPartition]
  simp [Json.Exact]

/-- So are the file, the place and the server, as both numbers fit. -/
theorem exact_sourceOffset (p : LogPosition) (server : UInt32) :
    ∀ e ∈ (p.sourceOffset server).entries, e.2.Exact := by
  have hplace := p.place.toNat_lt
  have hserver := server.toNat_lt
  rw [entries_sourceOffset]
  simp only [offsetMembers, List.forall_mem_cons]
  refine ⟨trivial, ?_, ?_, nofun⟩
  · exact (Json.fits_int 0 (by omega)).exact
  · exact (Json.fits_int 0 (by omega)).exact

/-! ## The position -/

/-- A coarse position with a file becomes the position of the two objects. Without a file it is
none. -/
theorem toStream_eq_ok_iff :
    p.toStream session server = .ok q ↔
      p.file ≠ "" ∧ ResumePoint.ofSource session (sessionPartition session)
        (p.sourceOffset server) = .ok q := by
  unfold toStream
  split
  next hempty => simp [String.isEmpty_iff.1 hempty]
  next hfile =>
    rw [String.isEmpty_iff] at hfile
    simp [hfile]

/-- Only a missing file is an error, as both objects are flat. -/
theorem toStream_eq_error_iff {fault : PositionFault} :
    p.toStream session server = .error fault ↔ p.file = "" ∧ fault = .noFile := by
  -- Both parts hold primitives only, so the one thing that can be wrong is the name of the file.
  obtain ⟨q, hq⟩ : ∃ q, ResumePoint.ofSource session (sessionPartition session)
      (p.sourceOffset server) = .ok q :=
    ⟨_, ResumePoint.ofSource_eq_ok_iff.2
      ⟨⟨hasOnlyPrimitives_sessionPartition session, hasOnlyPrimitives_sourceOffset p server⟩, rfl⟩⟩
  unfold toStream
  split
  next hempty => simp [String.isEmpty_iff.1 hempty, eq_comm]
  next hfile =>
    rw [String.isEmpty_iff] at hfile
    simp [hfile, hq]

/-- The position holds the two objects that it was made of. -/
theorem holdsFlat_toStream (h : p.toStream session server = .ok q) :
    q.HoldsFlat (sessionPartition session) (p.sourceOffset server) :=
  ResumePoint.holdsFlat_of_ofSource (exact_sessionPartition session) (exact_sourceOffset p server)
    (toStream_eq_ok_iff.1 h).2

theorem name_toStream (h : p.toStream session server = .ok q) : q.name = session := by
  obtain ⟨-, rfl⟩ := ResumePoint.ofSource_eq_ok_iff.1 (toStream_eq_ok_iff.1 h).2
  rfl

/-- **Back again**: the coarse position is told from the offset. -/
theorem logPosition?_toStream (h : p.toStream session server = .ok q) :
    q.logPosition? = some p := by
  have hfile : (p.sourceOffset server).get? "file" = some (.string p.file) := by
    rw [SortedMap.get?, entries_sourceOffset]
    rfl
  have hplace : (p.sourceOffset server).get? "pos" = some (.int p.place.toNat) := by
    rw [SortedMap.get?, entries_sourceOffset]
    rfl
  simp [ResumePoint.logPosition?, (holdsFlat_toStream h).entries_eq, Except.toOption, hfile, hplace,
    Json.text?, Json.nat?]

/-- **Different inputs, different texts**: what the engine is given determines the file, the place,
the session and the server. -/
theorem eq_of_wireText_eq (h : p.toStream session server = .ok q)
    (h' : p'.toStream session' server' = .ok q') (htext : q.wireText = q'.wireText) :
    p = p' ∧ session = session' ∧ server = server' := by
  obtain ⟨horigin, hoffset⟩ :=
    (holdsFlat_toStream h).eq_of_wireText_eq (holdsFlat_toStream h') htext
  have hsession := congrArg SortedMap.entries horigin
  have hmembers := congrArg SortedMap.entries hoffset
  rw [entries_sessionPartition, entries_sessionPartition] at hsession
  rw [entries_sourceOffset, entries_sourceOffset] at hmembers
  -- Both objects have the same members, so their values are compared one by one.
  simp only [offsetMembers, List.cons.injEq, Prod.mk.injEq, Json.string.injEq, Json.int.injEq,
    true_and, and_true, Int.natCast_inj] at hsession hmembers
  obtain ⟨hfile, hplace, hserver⟩ := hmembers
  refine ⟨?_, hsession, UInt32.toNat_inj.1 hserver⟩
  cases p
  cases p'
  rw [mk.injEq]
  exact ⟨hfile, UInt64.toNat_inj.1 hplace⟩

/-- **Nothing is lost**: a coarse position has no position in the stream exactly if it names no
file. Otherwise the position has the name of the session and a single entry, which tells the
session, and the file, the place and the server. The coarse position is told from it, also when it
was written as JSON and read again; and no other file, place, session or server has the same text
for the engine. -/
theorem toStream_is_lossless (p : LogPosition) (session : String) (server : UInt32) :
    (∀ fault, p.toStream session server = .error fault ↔ p.file = "" ∧ fault = .noFile) ∧
    ∀ q, p.toStream session server = .ok q →
      q.name = session ∧
      (∃ origin offset, q.entries = .ok [(origin, offset)] ∧
        origin.entries = [("server", .string session)] ∧
        offset.entries = [("file", .string p.file), ("pos", .int p.place.toNat),
          ("server_id", .int server.toNat)]) ∧
      q.logPosition? = some p ∧
      (∃ r, Json.decodeText ResumePoint.decode q.toJson.render = .ok r ∧
        r.logPosition? = some p) ∧
      ∀ p' session' server' q', p'.toStream session' server' = .ok q' →
        q'.wireText = q.wireText → p' = p ∧ session' = session ∧ server' = server := by
  -- What is written down is flat, and everything else is read off that.
  constructor
  · intro fault
    exact toStream_eq_error_iff
  · intro q hq
    have hholds := holdsFlat_toStream hq
    refine ⟨name_toStream hq, ?_, logPosition?_toStream hq, ?_, ?_⟩
    · exact ⟨_, _, hholds.entries_eq, entries_sessionPartition session,
        entries_sourceOffset p server⟩
    · exact ⟨q, ResumePoint.decodeText_render hholds.ofWire_eq, logPosition?_toStream hq⟩
    · intro p' session' server' q' hq' htext
      exact eq_of_wireText_eq hq' hq htext

/-- A file and a session with quotes and backslashes, at the last place of the largest server. -/
theorem quotedFile_is_told_back :
    let p : LogPosition := ⟨"bin \"1\" \\", 18446744073709551615⟩
    ∃ q, p.toStream "a \\\"b" 4294967295 = .ok q ∧ q.name = "a \\\"b" ∧ q.logPosition? = some p ∧
      ∃ r, Json.decodeText ResumePoint.decode q.toJson.render = .ok r ∧
        r.logPosition? = some p := by
  intro p
  obtain ⟨herror, hback⟩ := toStream_is_lossless p "a \\\"b" 4294967295
  cases hq : p.toStream "a \\\"b" 4294967295 with
  | error fault =>
    have hempty := ((herror fault).1 hq).1
    exact absurd hempty (by decide)
  | ok q =>
    obtain ⟨hname, -, htold, hread, -⟩ := hback q hq
    exact ⟨q, rfl, hname, htold, hread⟩

end LogPosition

end ChangeFeed

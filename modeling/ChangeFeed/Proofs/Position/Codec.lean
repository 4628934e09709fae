import ChangeFeed.Position.Codec
import ChangeFeed.Proofs.Json.Fields
import ChangeFeed.Proofs.Position
import ChangeFeed.Settings

/-!
# Positions: JSON: Round trip

A position that was made from a record holds two JSON texts, and is itself written as JSON. It comes
back on every way on which positions are read, all of which look at the texts again.

## Main results

* `parseFlat_flatText`: the text of a flat object is read as the object.
* `ResumePoint.ofSource_comes_back`: when a position is made, and that it comes back.
-/

namespace ChangeFeed

open Json (Decodes)

/-! ## Flat objects -/

variable {object : SortedMap Json}

/-- There is nothing in a primitive value that could be out of order. -/
theorem Json.ordered_of_isPrimitive {v : Json} (h : v.isPrimitive = true) : v.Ordered := by
  cases v with
  | array _ | object _ => cases h
  | null | bool _ | int _ | float _ | string _ => trivial

/-- A primitive value has no levels below it. -/
theorem Json.fits_of_isPrimitive {v : Json} (h : v.isPrimitive = true) (hexact : v.Exact) :
    v.Fits 0 := by
  refine ⟨hexact, ?_⟩
  cases v with
  | array _ | object _ => cases h
  | null | bool _ | int _ | float _ | string _ => exact Nat.le_refl 0

/-- A flat object without floating-point numbers is read back from its text. -/
theorem parseFlat_flatText (part : PositionPart) (hflat : HasOnlyPrimitives object)
    (hexact : ∀ e ∈ object.entries, e.2.Exact) :
    parseFlat part (flatText object) = .ok object := by
  -- Nothing is nested in a flat object, so only its own members have to be in order.
  have hordered : (Json.ofMap object).Ordered :=
    Json.ordered_ofMap fun e he => Json.ordered_of_isPrimitive (hflat.2 e he)
  have hfits : (Json.ofMap object).Fits 1 :=
    Json.fits_object fun e he => Json.fits_of_isPrimitive (hflat.2 e he) (hexact e he)
  have hparse : Json.parse (flatText object) = .ok (.object object.entries) :=
    Json.parse_of_spells hordered hfits (by decide) (Json.spells_render _)
  simp only [parseFlat, hparse, object.ofList_entries, (checkFlat_eq_ok_iff part).2 hflat, bind,
    Except.bind]
  rfl

namespace ResumePoint

/-! ## Positions of records -/

/-- The texts of flat objects are accepted as the only entry of a position. -/
structure HoldsFlat (p : ResumePoint) (origin offset : SortedMap Json) : Prop where
  offset_eq : p.offset = .single (flatText origin) (flatText offset)
  origin : parseFlat .partition (flatText origin) = .ok origin
  offset : parseFlat .offset (flatText offset) = .ok offset

variable {name : String} {origin offset : SortedMap Json} {p : ResumePoint}

/-- A position that is made of flat objects holds them. -/
theorem holdsFlat_of_ofSource (horigin : ∀ e ∈ origin.entries, e.2.Exact)
    (hoffset : ∀ e ∈ offset.entries, e.2.Exact) (h : ofSource name origin offset = .ok p) :
    p.HoldsFlat origin offset := by
  obtain ⟨⟨hflat, hflat'⟩, rfl⟩ := ofSource_eq_ok_iff.1 h
  exact ⟨rfl, parseFlat_flatText _ hflat horigin, parseFlat_flatText _ hflat' hoffset⟩

namespace HoldsFlat

/-- It tells these objects as its only entry. -/
theorem entries_eq (h : p.HoldsFlat origin offset) : p.entries = .ok [(origin, offset)] := by
  simp only [entries, h.offset_eq, SortedMap.single, List.mapM_cons, List.mapM_nil, h.origin,
    h.offset, bind, Except.bind]
  rfl

/-- It is accepted as what was written. -/
theorem ofWire_eq (h : p.HoldsFlat origin offset) : ofWire p.name p.offset = .ok p := by
  have hsome : p.offset.isEmpty = false := by rw [h.offset_eq]; rfl
  have hentries : p.offset.entries = [(flatText origin, flatText offset)] := by
    rw [h.offset_eq]
    rfl
  simp [ofWire, hsome, hentries, h.origin, h.offset, bind, Except.bind, pure, Except.pure]

end HoldsFlat

/-! ## Positions as JSON -/

/-- A position is decoded from its name and its entries. -/
theorem decodes_parts (p : ResumePoint) : Decodes decodeParts p.toJson (p.name, p.offset) := by
  refine Json.Fields.Builds.decodes ?_ _
  exact Json.Fields.builds_pure Prod.mk
    |>.present rfl (Json.decodes_string p.name)
    |>.present rfl (.map fun e _ => Json.decodes_string e.2)

/-- A position is decoded if its entries pass the check. -/
theorem decodes (h : ofWire p.name p.offset = .ok p) : Decodes decode p.toJson p := by
  intro o doc hdoc
  simp only [decode, Json.decodeThen, decodes_parts p o doc hdoc, h, bind, Except.bind]

/-- A position is an object with a map in it. -/
theorem fits (p : ResumePoint) : p.toJson.Fits 2 := by
  have hoffset : (Json.ofMap (p.offset.mapValues fun _ text => .string text)).Fits 1 :=
    Json.fits_map fun e _ => Json.fits_string 0 e.2
  exact Json.fits_object (by simp [hoffset])

/-- A position is no coarse one: it names no file. -/
theorem refuses_log (p : ResumePoint) : Json.Refuses LogPosition.decode p.toJson := by
  refine Json.Fields.refuses (e := ⟨.missingField "filename", none⟩) ?_ rfl _
  exact List.forall_mem_cons.2 ⟨rfl, List.forall_mem_cons.2 ⟨rfl, nofun⟩⟩

/-- A position in the stream is taken for none in the log, as it has no file. -/
theorem decodes_start (h : ofWire p.name p.offset = .ok p) :
    Decodes StartingPoint.decode p.toJson (.stream p) :=
  Json.decodes_first [Json.decodeAs StartingPoint.log LogPosition.decode]
    (List.forall_mem_singleton.2 (p.refuses_log.as StartingPoint.log))
    ((decodes h).as StartingPoint.stream)

theorem decodeText_render (h : ofWire p.name p.offset = .ok p) :
    Json.decodeText decode p.toJson.render = .ok p :=
  (decodes h).decodeText_render p.fits (by decide)

theorem decodeText_render_start (h : ofWire p.name p.offset = .ok p) :
    Json.decodeText StartingPoint.decode p.toJson.render = .ok (.stream p) :=
  (decodes_start h).decodeText_render p.fits (by decide)

/-- The engine is given the position as text. -/
theorem get?_properties (p : ResumePoint) (c : ReaderSettings) (session : String)
    (tables : List String) (batch : UInt64) (replica : UInt32) :
    (c.properties session tables (some p) batch replica).get? "offset.string" =
      some p.toJson.render :=
  SortedMap.get?_insert_self _ _ _

/-- **Closure**: a position can be made from objects without floating-point numbers exactly if both
have members, all of them primitive. Such a position tells the objects, is accepted by its own
check, and is decoded to itself: as a position, as a starting point of any session, and from the
property that the engine is given. -/
theorem ofSource_comes_back (name : String) {origin offset : SortedMap Json}
    (horigin : ∀ e ∈ origin.entries, e.2.Exact) (hoffset : ∀ e ∈ offset.entries, e.2.Exact) :
    ((∃ p, ofSource name origin offset = .ok p) ↔
      HasOnlyPrimitives origin ∧ HasOnlyPrimitives offset) ∧
    ∀ p, ofSource name origin offset = .ok p →
      p.entries = .ok [(origin, offset)] ∧
      ofWire p.name p.offset = .ok p ∧
      Json.decodeText decode p.toJson.render = .ok p ∧
      Json.decodeText StartingPoint.decode p.toJson.render = .ok (.stream p) ∧
      (∀ session server, (StartingPoint.stream p).resolve session server = .ok p) ∧
      ∀ (c : ReaderSettings) session tables batch replica, ∃ text,
        (c.properties session tables (some p) batch replica).get? "offset.string" = some text ∧
          Json.decodeText decode text = .ok p := by
  -- Everything follows from what the flat texts hold, whichever way they are read back.
  refine ⟨⟨fun ⟨p, hp⟩ => (ofSource_eq_ok_iff.1 hp).1, fun h => ⟨_, ofSource_eq_ok_iff.2 ⟨h, rfl⟩⟩⟩,
    fun p hp => ?_⟩
  have hholds := holdsFlat_of_ofSource horigin hoffset hp
  have hwire := hholds.ofWire_eq
  have hdecode := decodeText_render hwire
  exact ⟨hholds.entries_eq, hwire, hdecode, decodeText_render_start hwire, fun _ _ => rfl,
    fun c session tables batch replica =>
      ⟨_, p.get?_properties c session tables batch replica, hdecode⟩⟩

/-- A position with a name that has to be escaped twice and a place that needs all 64 bits. -/
theorem quotedServer_comes_back :
    let origin : SortedMap Json := .single "server" (.string "a \"b\" \\")
    let offset : SortedMap Json := .single "pos" (.int 18446744073709551615)
    ∃ p, ofSource "s" origin offset = .ok p ∧ p.entries = .ok [(origin, offset)] ∧
      Json.decodeText decode p.toJson.render = .ok p ∧
      Json.decodeText StartingPoint.decode p.toJson.render = .ok (.stream p) := by
  intro origin offset
  have horigin : ∀ e ∈ origin.entries, e.2.Exact := List.forall_mem_singleton.2 trivial
  have hoffset : ∀ e ∈ offset.entries, e.2.Exact :=
    List.forall_mem_singleton.2 (Json.fits_int 0 (by decide)).exact
  obtain ⟨hiff, hback⟩ := ofSource_comes_back "s" horigin hoffset
  obtain ⟨p, hp⟩ := hiff.2
    ⟨⟨nofun, List.forall_mem_singleton.2 rfl⟩, ⟨nofun, List.forall_mem_singleton.2 rfl⟩⟩
  obtain ⟨hentries, -, hdecode, hstart, -⟩ := hback p hp
  exact ⟨p, hp, hentries, hdecode, hstart⟩

end ResumePoint

end ChangeFeed

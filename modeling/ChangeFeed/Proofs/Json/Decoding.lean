import ChangeFeed.Json.Decode
import ChangeFeed.Proofs.Json.Reading
import ChangeFeed.Proofs.SortedMap

/-!
# JSON: Decoding what was encoded

A decoder gets a value right if it decodes every document of the value to what was encoded,
wherever the document comes from. Decoders of parts that do so make decoders of lists and maps that
do so.

## Main results

* `decodes_any`: a value whose objects are in order is decoded to itself.
* `Decodes.list`, `Decodes.map`: lists and maps are decoded part by part.
* `Decodes.decodeSymbols_of_spells`: whole texts, however they are laid out.
-/

namespace ChangeFeed.Json

variable {α β : Type} {decode : Decode α} {v : Json} {a : α}

/-- Every document that denotes the value is decoded to `a`. -/
def Decodes (decode : Decode α) (v : Json) (a : α) : Prop :=
  ∀ o doc, Denotes doc v → decode o doc = .ok a

/-! ## Any value -/

mutual

/-- A document can be looked through; if the objects of its value are in order, what is found is the
value. -/
theorem anyValue_of_denotes {doc : Doc} (v : Json) (h : Denotes doc v) :
    ∃ w, anyValue doc = .ok w ∧ (v.Ordered → w = v) := by
  -- A leaf is read as it is; what is nested is read part by part.
  match v, h with
  | v, .leaf _ _ _ _ => exact ⟨v, rfl, fun _ => rfl⟩
  | .array vs, .array _ _ behind hitems =>
    obtain ⟨ws, hws, hsame⟩ := anyItems_of_denotes vs hitems behind
    refine ⟨.array ws, ?_, fun hordered => by rw [hsame hordered]⟩
    simp only [anyValue, hws, unlessTooDeep]
    rfl
  | .object ms, .object _ _ behind hmembers =>
    obtain ⟨n, hn, hsame⟩ := anyMembers_of_denotes ms hmembers behind .empty
    refine ⟨.object n.entries, ?_, fun hordered => ?_⟩
    · simp only [anyValue, hn, unlessTooDeep]
      rfl
    · simp only [Ordered] at hordered
      exact congrArg Json.object (hsame hordered.2 hordered.1)

/-- Items are looked through one by one. -/
theorem anyItems_of_denotes {items : List (Nat × Nat × Doc)} (vs : List Json)
    (h : DenotesItems items vs) (behind : Nat) :
    ∃ ws, anyItems items (.closed behind) = .ok ws ∧ (OrderedItems vs → ws = vs) := by
  -- Each item is read by itself, and keeps its place.
  match vs, h with
  | [], .nil => exact ⟨[], rfl, fun _ => rfl⟩
  | v :: vs, .cons _ _ hdoc hrest =>
    obtain ⟨w, hw, hsame⟩ := anyValue_of_denotes v hdoc
    obtain ⟨ws, hws, hrestSame⟩ := anyItems_of_denotes vs hrest behind
    refine ⟨w :: ws, ?_, fun hordered => ?_⟩
    · simp only [anyItems, hw, hws, bind, Except.bind]
      rfl
    · simp only [OrderedItems] at hordered
      rw [hsame hordered.1, hrestSame hordered.2]

/-- Members in increasing order go behind those that were found before. -/
theorem anyMembers_of_denotes {members : List (Except Fault String × Nat × Nat × Doc)}
    (ms : List (String × Json)) (h : DenotesMembers members ms) (behind : Nat)
    (m : SortedMap Json) :
    ∃ n : SortedMap Json, anyMembers members (.closed behind) m = .ok n ∧
      (OrderedMembers ms → ((m.entries ++ ms).Pairwise fun a b => a.1 < b.1) →
        n.entries = m.entries ++ ms) := by
  match ms, h with
  | [], .nil => exact ⟨m, rfl, fun _ _ => (List.append_nil _).symm⟩
  | (key, v) :: ms, .cons _ _ _ hdoc hrest =>
    obtain ⟨w, hw, hsame⟩ := anyValue_of_denotes v hdoc
    obtain ⟨n, hn, hrestSame⟩ := anyMembers_of_denotes ms hrest behind (m.insert key w)
    refine ⟨n, ?_, fun hordered hsorted => ?_⟩
    · simp only [anyMembers, hw, bind, Except.bind]
      exact hn
    · simp only [OrderedMembers] at hordered
      -- The keys ascend, so the new one goes to the end of what was found.
      obtain rfl := hsame hordered.1
      have hentries := SortedMap.entries_insert_append hsorted
      rw [hrestSame hordered.2 (hentries ▸ hsorted), hentries]

end

/-- A value whose objects are in order is found as it is. -/
theorem decodes_any (h : v.Ordered) : Decodes decodeAny v v := by
  intro o doc hdoc
  obtain ⟨w, hw, hsame⟩ := anyValue_of_denotes v hdoc
  exact hsame h ▸ hw

/-- The members of an object are in order one by one. -/
theorem orderedMembers_iff {ms : List (String × Json)} :
    OrderedMembers ms ↔ ∀ m ∈ ms, m.2.Ordered := by
  induction ms with
  | nil => simp [OrderedMembers]
  | cons m ms ih => simp only [OrderedMembers, ih, List.forall_mem_cons]

/-- The members of a map are in order. -/
theorem ordered_ofMap {m : SortedMap Json} (h : ∀ e ∈ m.entries, e.2.Ordered) :
    (ofMap m).Ordered :=
  ⟨m.sorted, orderedMembers_iff.2 h⟩

/-- What is set aside only has to be a value. -/
theorem setAside_of_denotes {doc : Doc} (h : Denotes doc v) : setAside doc = .ok () := by
  obtain ⟨w, hw, -⟩ := anyValue_of_denotes v h
  simp only [setAside, hw]
  rfl

/-! ## Scalars -/

/-- A string is decoded as itself. -/
theorem decodes_string (s : String) : Decodes decodeString (.string s) s := by
  intro o doc h
  cases h with
  | leaf => rfl

/-- So is a truth value. -/
theorem decodes_bool (b : Bool) : Decodes decodeBool (.bool b) b := by
  intro o doc h
  cases h with
  | leaf => rfl

/-- A number within its bounds is decoded as itself. -/
theorem decodes_int {low high n : Int} (typeName : String) (h : low ≤ n ∧ n ≤ high) :
    Decodes (decodeInt typeName low high) (.int n) n := by
  intro o doc hdoc
  cases hdoc with
  | leaf => simp only [decodeInt, h.1, h.2, decide_true, Bool.and_true, if_true]

/-- What is made of a decoded value can be decoded. -/
theorem Decodes.as (h : Decodes decode v a) (f : α → β) : Decodes (decodeAs f decode) v (f a) := by
  intro o doc hdoc
  simp only [decodeAs, h o doc hdoc]
  rfl

/-- The bounds of 64 bits are those of the numbers that fit into them. -/
theorem decodes_int64 (n : Int64) : Decodes decodeInt64 (.int n.toInt) n := by
  have hint := (decodes_int "i64" ⟨n.minValue_le_toInt, n.toInt_le⟩).as Int64.ofInt
  rw [Int64.ofInt_toInt] at hint
  exact hint

/-- The same with 32 bits. -/
theorem decodes_int32 (n : Int32) : Decodes decodeInt32 (.int n.toInt) n := by
  have hint := (decodes_int "i32" ⟨n.minValue_le_toInt, n.toInt_le⟩).as Int32.ofInt
  rw [Int32.ofInt_toInt] at hint
  exact hint

theorem decodes_nat {n bound : Nat} (typeName : String) (h : n < bound) :
    Decodes (decodeNat typeName bound) (.int n) n :=
  (decodes_int typeName ⟨Int.natCast_nonneg n, by omega⟩).as Int.toNat

/-- The same with eight bits and no sign. -/
theorem decodes_byte (b : UInt8) : Decodes decodeByte (.int b.toNat) b := by
  have hnat := (decodes_nat "u8" b.toNat_lt).as UInt8.ofNat
  rw [UInt8.ofNat_toNat] at hnat
  exact hnat

/-! ## Values that may be missing -/

/-- A value that is not null is one of those that may be missing. -/
theorem Decodes.option (h : Decodes decode v a) (hne : v ≠ .null) :
    Decodes (decodeOption decode) v (some a) := by
  intro o doc hdoc
  have hsome : decodeOption decode o doc = some <$> decode o doc := by
    -- The reader looks at what the document is only to see whether it is null.
    cases hdoc with
    | leaf =>
      cases v with
      | null => exact absurd rfl hne
      | bool _ | int _ | float _ | string _ | array _ | object _ => rfl
    | array | object => rfl
  rw [hsome, h o doc hdoc]
  rfl

/-! ## Lists -/

/-- The items of a list are decoded one by one. -/
theorem listItems_of_denotes {encode : α → Json} {as : List α}
    (h : ∀ a ∈ as, Decodes decode (encode a) a) (o : Origin) (behind : Nat)
    {items : List (Nat × Nat × Doc)} (hitems : DenotesItems items (as.map encode)) :
    listItems decode o items (.closed behind) = .ok as := by
  -- The induction is on the list, and the document has an item for each of its parts.
  induction as generalizing items with
  | nil =>
    cases hitems
    rfl
  | cons a as ih =>
    rw [List.forall_mem_cons] at h
    cases hitems with
    | cons start after hdoc hrest =>
      simp only [listItems, h.1 o _ hdoc, ih h.2 hrest]
      rfl

/-- A list is decoded if all of its items are. -/
theorem Decodes.list {encode : α → Json} {as : List α}
    (h : ∀ a ∈ as, Decodes decode (encode a) a) :
    Decodes (decodeList decode) (.array (as.map encode)) as := by
  intro o doc hdoc
  cases hdoc with
  | leaf _ _ _ hprimitive => exact absurd hprimitive (by simp [isPrimitive])
  | array opening first behind hitems => exact listItems_of_denotes h o behind hitems

/-! ## Maps -/

/-- Members in increasing order go behind those that were decoded before. -/
theorem mapMembers_of_denotes {encode : String → α → Json} (o : Origin) (behind : Nat)
    {members : List (Except Fault String × Nat × Nat × Doc)} {entries : List (String × α)}
    (h : ∀ e ∈ entries, Decodes decode (encode e.1 e.2) e.2)
    (hmembers : DenotesMembers members (entries.map fun e => (e.1, encode e.1 e.2)))
    (m : SortedMap α) (hsorted : (m.entries ++ entries).Pairwise fun a b => a.1 < b.1) :
    ∃ n : SortedMap α, mapMembers decode o members (.closed behind) m = .ok n ∧
      n.entries = m.entries ++ entries := by
  induction entries generalizing members m with
  | nil =>
    cases hmembers
    exact ⟨m, rfl, (List.append_nil _).symm⟩
  | cons e entries ih =>
    rw [List.forall_mem_cons] at h
    -- The keys ascend, so the new entry goes behind those that were decoded before.
    cases hmembers with
    | cons key atKey after hdoc hrest =>
      have hentries := SortedMap.entries_insert_append hsorted
      obtain ⟨n, hn, hnentries⟩ := ih h.2 hrest (m.insert e.1 e.2) (hentries ▸ hsorted)
      refine ⟨n, ?_, hnentries.trans hentries⟩
      simp only [mapMembers, h.1 o _ hdoc]
      exact hn

/-- A map is decoded if all of its values are. -/
theorem Decodes.map {encode : String → α → Json} {m : SortedMap α}
    (h : ∀ e ∈ m.entries, Decodes decode (encode e.1 e.2) e.2) :
    Decodes (decodeMap decode) (.ofMap (m.mapValues encode)) m := by
  intro o doc hdoc
  cases hdoc with
  | leaf _ _ _ hprimitive => exact absurd hprimitive (by simp [isPrimitive, ofMap])
  | object opening first behind hmembers =>
    obtain ⟨n, hn, hentries⟩ := mapMembers_of_denotes o behind h hmembers .empty m.sorted
    -- A map is its entries.
    have hsame : n = m := SortedMap.ext hentries
    exact hsame ▸ hn

/-! ## Whole texts -/

/-- The value is exact, and arrays and objects are nested at most `n` deep in it. -/
structure Fits (n : Nat) (v : Json) : Prop where
  exact : v.Exact
  levels_le : v.levels ≤ n

theorem Fits.mono {m n : Nat} (h : v.Fits m) (hle : m ≤ n) : v.Fits n :=
  ⟨h.exact, Nat.le_trans h.levels_le hle⟩

@[simp] theorem fits_string (n : Nat) (s : String) : (Json.string s).Fits n :=
  ⟨trivial, Nat.zero_le n⟩

@[simp] theorem fits_bool (n : Nat) (b : Bool) : (Json.bool b).Fits n := ⟨trivial, Nat.zero_le n⟩

theorem fits_int (n : Nat) {i : Int} (h : -9223372036854775808 ≤ i ∧ i < 18446744073709551616) :
    (Json.int i).Fits n :=
  ⟨h, Nat.zero_le n⟩

/-- Sixty-four bits fit, as they are within the bounds of both kinds of integers. -/
@[simp] theorem fits_int64 (n : Nat) (i : Int64) : (Json.int i.toInt).Fits n := by
  have hlow := i.le_toInt
  have hhigh := i.toInt_lt
  exact fits_int n (by omega)

/-- So do thirty-two bits. -/
@[simp] theorem fits_int32 (n : Nat) (i : Int32) : (Json.int i.toInt).Fits n := by
  have hlow := i.le_toInt
  have hhigh := i.toInt_lt
  exact fits_int n (by omega)

@[simp] theorem fits_byte (n : Nat) (b : UInt8) : (Json.int b.toNat).Fits n := by
  have hhigh := b.toNat_lt
  exact fits_int n (by omega)

/-- A list is one level deeper than its items. -/
theorem fits_array {n : Nat} {vs : List Json} (h : ∀ v ∈ vs, v.Fits n) :
    (Json.array vs).Fits (n + 1) :=
  ⟨exactItems_iff.2 fun v hv => (h v hv).exact,
    Nat.succ_le_succ (itemLevels_le fun v hv => (h v hv).levels_le)⟩

/-- An object is one level deeper than its members. -/
theorem fits_object {n : Nat} {ms : List (String × Json)} (h : ∀ m ∈ ms, m.2.Fits n) :
    (Json.object ms).Fits (n + 1) :=
  ⟨exactMembers_iff.2 fun m hm => (h m hm).exact,
    Nat.succ_le_succ (memberLevels_le fun m hm => (h m hm).levels_le)⟩

/-- A map is one level deeper than its values. -/
theorem fits_map {n : Nat} {m : SortedMap α} {encode : String → α → Json}
    (h : ∀ e ∈ m.entries, (encode e.1 e.2).Fits n) :
    (ofMap (m.mapValues encode)).Fits (n + 1) := by
  refine fits_object fun member hmember => ?_
  obtain ⟨e, he, rfl⟩ := List.mem_map.1 hmember
  exact h e he

/-- **Whole texts**: a text that spells a value is decoded as the value is. -/
theorem Decodes.decodeSymbols_of_spells (h : Decodes decode v a) {n : Nat} (hfits : v.Fits n)
    (hdepth : n < maxDepth) {text : List Symbol} (hspells : Spells v text) :
    decodeSymbols decode text = .ok a := by
  obtain ⟨doc, hread, hdenotes⟩ :=
    readDocument_of_spells hspells hfits.exact (Nat.lt_of_le_of_lt hfits.levels_le hdepth)
  simp only [decodeSymbols, hread, h .text doc hdenotes]

theorem Decodes.decodeText_render (h : Decodes decode v a) {n : Nat} (hfits : v.Fits n)
    (hdepth : n < maxDepth) : decodeText decode v.render = .ok a :=
  h.decodeSymbols_of_spells hfits hdepth (spells_render v)

/-- **Any text**: a text that spells a value is read as the value. -/
theorem parse_of_spells (hordered : v.Ordered) {n : Nat} (hfits : v.Fits n) (hdepth : n < maxDepth)
    {text : String} (hspells : Spells v (symbolsOf text)) : parse text = .ok v :=
  (decodes_any hordered).decodeSymbols_of_spells hfits hdepth hspells

end ChangeFeed.Json

import ChangeFeed.History.Blob
import ChangeFeed.Proofs.Gzip
import ChangeFeed.Proofs.Json.Decoding
import ChangeFeed.Proofs.Text.Base64

/-!
# The schema history: Packed text: Round trip

What was packed is unpacked. Each layer is undone by itself: the alphabet of 64 characters, the
packing, the bytes of the characters, and the JSON text.
-/

namespace ChangeFeed.StatementLists

/-! ## The JSON form -/

theorem decodes_toJson (s : StatementLists) : Json.Decodes decode s.toJson s :=
  .map fun _ _ => .list fun statement _ => Json.decodes_string statement

/-- A snapshot is an object of arrays of texts. -/
theorem fits_toJson (s : StatementLists) : s.toJson.Fits 2 := by
  refine Json.fits_map fun _ _ => Json.fits_array fun v hv => ?_
  obtain ⟨statement, -, rfl⟩ := List.mem_map.1 hv
  exact Json.fits_string 0 statement

theorem symbolsOf_encode (s : String) :
    symbolsOf (Text.Utf8.encode s) = Json.symbolsOf s := by
  simp only [symbolsOf, Text.Utf8.encode, Text.Utf8.decode_encodeChars, List.map_map]
  rfl

/-! ## The packed text -/

/-- **Round trip**: the packed text of a snapshot is unpacked to the snapshot, however its bytes are
packed. -/
theorem unpack_pack [Gzip.Packer] [Gzip.LawfulPacker] (s : StatementLists) :
    unpack s.pack = .ok s := by
  -- From the inside: the JSON text is decoded, and the layers around it are undone one by one.
  have hdecode := s.decodes_toJson.decodeSymbols_of_spells s.fits_toJson (by decide)
    (Json.spells_render _)
  have hok {ε ε' α : Type} (f : ε → ε') (a : α) : Except.mapError f (.ok a) = .ok a := rfl
  simp only [unpack, pack, Text.Base64.decode_encode, Gzip.LawfulPacker.unpack_pack,
    symbolsOf_encode, hdecode, hok, bind, Except.bind]

end ChangeFeed.StatementLists

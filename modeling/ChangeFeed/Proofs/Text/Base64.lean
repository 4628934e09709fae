import ChangeFeed.Proofs.Text.Utf8
import ChangeFeed.Text.Base64

/-!
# Text: Base64: Round trip

Decoding gives back the bytes that were encoded. A whole group of three bytes is four values below
64; only the last group may have fillers, and then the spare bits of its last symbol are zero.
-/

namespace ChangeFeed.Text.Base64

/-! ## Symbols as bytes -/

/-- The byte of the symbol of a value. -/
def symbolByte (value : Nat) : UInt8 := UInt8.ofNat (symbol value).toNat

/-- The bytes of the text of bytes. -/
def symbolBytes (bytes : List UInt8) : List UInt8 :=
  (symbols bytes).map fun c => UInt8.ofNat c.toNat

theorem value?_symbolByte {v : Nat} (h : v < 64) : value? (symbolByte v) = some v := by
  have hall : ∀ v : Fin 64, value? (symbolByte v) = some v.1 := by decide +kernel
  exact hall ⟨v, h⟩

/-- No symbol of the alphabet is the filler. -/
theorem symbolByte_ne_filler {v : Nat} (h : v < 64) : symbolByte v ≠ filler := by
  intro hfiller
  have hvalue := value?_symbolByte h
  rw [hfiller] at hvalue
  exact absurd hvalue (by simp [value?, filler])

theorem valueAt_symbolByte (offset : Nat) {v : Nat} (h : v < 64) :
    valueAt offset (symbolByte v) = .ok v := by
  simp only [valueAt, value?_symbolByte h]

/-- All symbols are ASCII characters. -/
theorem symbol_isAscii (v : Nat) : (symbol v).toNat < 0x80 := by
  have hall : ∀ v : Fin 65, (symbol v).toNat < 0x80 := by decide +kernel
  by_cases h : v < 65
  · exact hall ⟨v, h⟩
  · -- Behind the alphabet there is only the default.
    have hlength : alphabet.length = 64 := by decide +kernel
    have hdefault : symbol v = '=' := by
      rw [symbol, List.getD_eq_getElem?_getD, List.getElem?_eq_none (by omega)]
      rfl
    rw [hdefault]
    decide

/-- So are those of a text. -/
theorem symbols_isAscii (bytes : List UInt8) : ∀ c ∈ symbols bytes, c.toNat < 0x80 := by
  -- The cases are those of the groups: three bytes, or what is left at the end.
  induction bytes using symbols.induct with
  | case1 => simp [symbols]
  | case2 a => simp [symbols, symbol_isAscii]
  | case3 a b => simp [symbols, symbol_isAscii]
  | case4 a b c rest ih =>
    intro d hd
    simp only [symbols, List.mem_cons] at hd
    rcases hd with rfl | rfl | rfl | rfl | hd
    · exact symbol_isAscii _
    · exact symbol_isAscii _
    · exact symbol_isAscii _
    · exact symbol_isAscii _
    · exact ih d hd

/-- A text is made of groups of four. -/
theorem length_symbols_mod (bytes : List UInt8) : (symbols bytes).length % 4 = 0 := by
  induction bytes using symbols.induct with
  | case1 => simp [symbols]
  | case2 a => simp [symbols]
  | case3 a b => simp [symbols]
  | case4 a b c rest ih =>
    simp only [symbols, List.length_cons]
    omega

/-! ## Groups -/

/-- The bits of three bytes make up four values, each of them that of a symbol. -/
theorem groupValues_lt (a b c : UInt8) :
    a.toNat / 4 < 64 ∧ a.toNat % 4 * 16 + b.toNat / 16 < 64 ∧
      b.toNat % 16 * 4 + c.toNat / 64 < 64 ∧ c.toNat % 64 < 64 := by
  have ha := a.toNat_lt
  have hb := b.toNat_lt
  have hc := c.toNat_lt
  omega

/-- The first byte of a group is made of its first two symbols. -/
theorem firstByte_values (a b : UInt8) :
    a.toNat / 4 * 4 + (a.toNat % 4 * 16 + b.toNat / 16) / 16 = a.toNat := by
  have hb := b.toNat_lt
  omega

/-- A whole group stands for three bytes. -/
theorem wholeGroup_values (a b c : UInt8) :
    wholeGroup (a.toNat / 4) (a.toNat % 4 * 16 + b.toNat / 16) (b.toNat % 16 * 4 + c.toNat / 64)
      (c.toNat % 64) = [a, b, c] := by
  have hb := b.toNat_lt
  have hc := c.toNat_lt
  -- The second and the third byte are spread over two symbols each.
  have hsecond : (a.toNat % 4 * 16 + b.toNat / 16) % 16 * 16 +
      (b.toNat % 16 * 4 + c.toNat / 64) / 4 = b.toNat := by omega
  have hthird : (b.toNat % 16 * 4 + c.toNat / 64) % 4 * 64 + c.toNat % 64 = c.toNat := by omega
  simp only [wholeGroup, firstByte_values, hsecond, hthird, UInt8.ofNat_toNat]

/-- A single byte at the end takes two symbols and two fillers. -/
theorem lastGroup_one (start : Nat) (a : UInt8) :
    lastGroup start
      [symbolByte (a.toNat / 4), symbolByte (a.toNat % 4 * 16), filler, filler] = .ok [a] := by
  have ha := a.toNat_lt
  -- The bits that no byte uses are zero, as a reader demands.
  have hspare : a.toNat % 4 * 16 % 16 = 0 := by omega
  have hbyte : a.toNat / 4 * 4 + a.toNat % 4 * 16 / 16 = a.toNat := by omega
  have hv₀ : a.toNat / 4 < 64 := by omega
  have hv₁ : a.toNat % 4 * 16 < 64 := by omega
  have hvalues : lastValues start 0 0
      [symbolByte (a.toNat / 4), symbolByte (a.toNat % 4 * 16), filler, filler] =
        .ok ([a.toNat / 4, a.toNat % 4 * 16], 2) := by
    simp [lastValues, symbolByte_ne_filler, valueAt_symbolByte, hv₀, hv₁, bind, Except.bind, pure,
      Except.pure]
  simp only [lastGroup, hvalues, bind, Except.bind, hspare, hbyte, ne_eq, not_true_eq_false,
    if_false, UInt8.ofNat_toNat]

/-- Two bytes at the end take three symbols and one filler. -/
theorem lastGroup_two (start : Nat) (a b : UInt8) :
    lastGroup start
      [symbolByte (a.toNat / 4), symbolByte (a.toNat % 4 * 16 + b.toNat / 16),
        symbolByte (b.toNat % 16 * 4), filler] = .ok [a, b] := by
  -- Two bytes leave two spare bits in the third symbol, and these are zero.
  have hb := b.toNat_lt
  have hspare : b.toNat % 16 * 4 % 4 = 0 := by omega
  have hsecond : (a.toNat % 4 * 16 + b.toNat / 16) % 16 * 16 + b.toNat % 16 * 4 / 4 =
      b.toNat := by omega
  obtain ⟨hv₀, hv₁, -⟩ := groupValues_lt a b 0
  have hv₂ : b.toNat % 16 * 4 < 64 := by omega
  have hvalues : lastValues start 0 0
      [symbolByte (a.toNat / 4), symbolByte (a.toNat % 4 * 16 + b.toNat / 16),
        symbolByte (b.toNat % 16 * 4), filler] =
        .ok ([a.toNat / 4, a.toNat % 4 * 16 + b.toNat / 16, b.toNat % 16 * 4], 1) := by
    simp [lastValues, symbolByte_ne_filler, valueAt_symbolByte, hv₀, hv₁, hv₂, bind, Except.bind,
      pure, Except.pure]
  simp only [lastGroup, hvalues, bind, Except.bind, hspare, firstByte_values, hsecond, ne_eq,
    not_true_eq_false, if_false, UInt8.ofNat_toNat]

/-- Three bytes at the end are a whole group. -/
theorem lastGroup_three (start : Nat) (a b c : UInt8) :
    lastGroup start
      [symbolByte (a.toNat / 4), symbolByte (a.toNat % 4 * 16 + b.toNat / 16),
        symbolByte (b.toNat % 16 * 4 + c.toNat / 64), symbolByte (c.toNat % 64)] =
      .ok [a, b, c] := by
  obtain ⟨hv₀, hv₁, hv₂, hv₃⟩ := groupValues_lt a b c
  simp [lastGroup, lastValues, symbolByte_ne_filler, valueAt_symbolByte, hv₀, hv₁, hv₂, hv₃,
    wholeGroup_values, bind, Except.bind, pure, Except.pure]

/-- A group that others follow is decoded by itself. -/
theorem groups_cons (start : Nat) (a b c : UInt8) {more rest : List UInt8} (hmore : more ≠ [])
    (hrest : groups (start + 4) more = .ok rest) :
    groups start (symbolByte (a.toNat / 4) :: symbolByte (a.toNat % 4 * 16 + b.toNat / 16) ::
      symbolByte (b.toNat % 16 * 4 + c.toNat / 64) :: symbolByte (c.toNat % 64) :: more) =
      .ok (a :: b :: c :: rest) := by
  obtain ⟨hv₀, hv₁, hv₂, hv₃⟩ := groupValues_lt a b c
  -- What follows is not empty, so this is not the last group.
  obtain ⟨e, more, rfl⟩ := List.exists_cons_of_ne_nil hmore
  simp [groups, valueAt_symbolByte, hv₀, hv₁, hv₂, hv₃, hrest, wholeGroup_values, bind,
    Except.bind, pure, Except.pure]

theorem symbolBytes_ne_nil {bytes : List UInt8} (h : bytes ≠ []) : symbolBytes bytes ≠ [] := by
  match bytes, h with
  | [_], _ | [_, _], _ | _ :: _ :: _ :: _, _ => simp [symbolBytes, symbols]

/-- The groups of a text give back its bytes, wherever they begin. -/
theorem groups_symbolBytes (start : Nat) (bytes : List UInt8) :
    groups start (symbolBytes bytes) = .ok bytes := by
  induction bytes using symbols.induct generalizing start with
  | case1 => rfl
  | case2 a => exact lastGroup_one start a
  | case3 a b => exact lastGroup_two start a b
  | case4 a b c rest ih =>
    -- A whole group may be the last one, too.
    cases rest with
    | nil => exact lastGroup_three start a b c
    | cons d rest => exact groups_cons start a b c (symbolBytes_ne_nil nofun) (ih _)

/-! ## Texts -/

theorem utf8_encode (bytes : List UInt8) : Utf8.encode (encode bytes) = symbolBytes bytes := by
  simp only [Utf8.encode, encode, String.toList_ofList]
  exact Utf8.encodeChars_of_ascii (symbols_isAscii bytes)

/-- **Round trip**: the text of bytes is decoded to these bytes. -/
theorem decode_encode (bytes : List UInt8) : decode (Utf8.encode (encode bytes)) = .ok bytes := by
  rw [utf8_encode]
  have hlength : (symbolBytes bytes).length % 4 ≠ 1 := by
    have hmod := length_symbols_mod bytes
    simp only [symbolBytes, List.length_map]
    omega
  unfold decode
  split
  -- The length is no obstacle; an empty text is that of no bytes.
  next b hlast => rw [if_neg (fun h => hlength h.1), groups_symbolBytes]
  next hlast =>
    have hempty : symbolBytes bytes = [] := List.getLast?_eq_none_iff.1 hlast
    by_cases hbytes : bytes = []
    · rw [hbytes]
    · exact absurd hempty (symbolBytes_ne_nil hbytes)

end ChangeFeed.Text.Base64

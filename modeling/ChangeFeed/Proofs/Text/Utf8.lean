import ChangeFeed.Text.Utf8

/-!
# Text: UTF-8: Round trip

Decoding gives back every text that was encoded. The proof goes by the four lengths of a character:
its first byte tells the length, and the bytes behind it hold six bits each.
-/

namespace ChangeFeed.Text.Utf8

/-! ## Bytes that continue a character -/

/-- A byte that goes on with a character holds six bits of it. -/
theorem bits?_continuation (n : Nat) : bits? (continuation n) = some (n % 64) := by
  have hbyte : (continuation n).toNat = 0x80 + n % 64 := by
    simp only [continuation, UInt8.toNat_ofNat']
    omega
  unfold bits?
  rw [hbyte, if_pos (by omega), Nat.add_sub_cancel_left]

/-- The number of a character gives the character back. -/
theorem char?_toNat {c : Char} {least : Nat} (h : least ≤ c.toNat) :
    char? least c.toNat = some c := by
  have hvalid : c.toNat.isValidChar := c.valid
  simp only [char?, h, hvalid, and_self, if_true, Char.ofNat_toNat]

/-! ## One character -/

/-- A character of two bytes. -/
theorem leading?_two {c : Char} (rest : List UInt8) (hlow : ¬ c.toNat < 0x80)
    (hhigh : c.toNat < 0x800) :
    leading? (UInt8.ofNat (0xc0 + c.toNat / 64)) (continuation c.toNat :: rest) =
      some (c, 1) := by
  -- The first byte lies in the range that announces one more byte.
  have hbyte : (UInt8.ofNat (0xc0 + c.toNat / 64)).toNat = 0xc0 + c.toNat / 64 := by
    rw [UInt8.toNat_ofNat']
    omega
  have hnumber : (0xc0 + c.toNat / 64 - 0xc0) * 64 + c.toNat % 64 = c.toNat := by omega
  unfold leading?
  simp only [hbyte]
  rw [if_neg (by omega), if_neg (by omega), if_pos (by omega)]
  simp only [bits?_continuation, Option.bind_eq_bind, Option.bind_some, hnumber,
    char?_toNat (Nat.le_of_not_lt hlow)]
  rfl

/-- A character of three bytes. -/
theorem leading?_three {c : Char} (rest : List UInt8) (hlow : ¬ c.toNat < 0x800)
    (hhigh : c.toNat < 0x10000) :
    leading? (UInt8.ofNat (0xe0 + c.toNat / 4096))
      (continuation (c.toNat / 64) :: continuation c.toNat :: rest) = some (c, 2) := by
  -- Three bytes hold four, six and six bits, which add up to the number again.
  have hbyte : (UInt8.ofNat (0xe0 + c.toNat / 4096)).toNat = 0xe0 + c.toNat / 4096 := by
    rw [UInt8.toNat_ofNat']
    omega
  have hnumber : (0xe0 + c.toNat / 4096 - 0xe0) * 4096 + c.toNat / 64 % 64 * 64 + c.toNat % 64 =
      c.toNat := by
    omega
  unfold leading?
  simp only [hbyte]
  rw [if_neg (by omega), if_neg (by omega), if_neg (by omega), if_pos (by omega)]
  simp only [bits?_continuation, Option.bind_eq_bind, Option.bind_some, hnumber,
    char?_toNat (Nat.le_of_not_lt hlow)]
  rfl

/-- A character of four bytes. -/
theorem leading?_four {c : Char} (rest : List UInt8) (hlow : ¬ c.toNat < 0x10000) :
    leading? (UInt8.ofNat (0xf0 + c.toNat / 262144))
      (continuation (c.toNat / 4096) :: continuation (c.toNat / 64) :: continuation c.toNat ::
        rest) = some (c, 3) := by
  -- No character lies beyond the last plane, so the first byte does not overflow.
  have hvalid : c.toNat < 0x110000 := by
    have hc : c.toNat.isValidChar := c.valid
    simp only [Nat.isValidChar] at hc
    omega
  have hbyte : (UInt8.ofNat (0xf0 + c.toNat / 262144)).toNat = 0xf0 + c.toNat / 262144 := by
    rw [UInt8.toNat_ofNat']
    omega
  have hnumber : (0xf0 + c.toNat / 262144 - 0xf0) * 262144 + c.toNat / 4096 % 64 * 4096 +
      c.toNat / 64 % 64 * 64 + c.toNat % 64 = c.toNat := by
    omega
  unfold leading?
  dsimp only
  rw [hbyte, if_neg (by omega), if_neg (by omega), if_neg (by omega), if_neg (by omega),
    if_pos (by omega), bits?_continuation, bits?_continuation, bits?_continuation]
  -- One bind at a time, or the kernel counts up to the factor of the first byte.
  rw [Option.bind_eq_bind, Option.bind_some, Option.bind_eq_bind, Option.bind_some,
    Option.bind_some, hnumber, char?_toNat (Nat.le_of_not_lt hlow), Option.bind_some]
  rfl

/-- The first byte of a character and the bytes behind it give the character back. -/
theorem leading?_encodeChar (c : Char) (rest : List UInt8) :
    ∃ a bytes, encodeChar c = a :: bytes ∧
      leading? a (bytes ++ rest) = some (c, bytes.length) := by
  unfold encodeChar
  dsimp only
  -- How many bytes a character takes depends on its number, and its first byte tells how many
  -- follow.
  split
  next h =>
    have hbyte : (UInt8.ofNat c.toNat).toNat = c.toNat := by
      rw [UInt8.toNat_ofNat']
      omega
    exact ⟨_, [], rfl, by simp [leading?, hbyte, h]⟩
  next hone =>
    split
    next htwo => exact ⟨_, [_], rfl, leading?_two rest hone htwo⟩
    next htwo =>
      split
      next hthree => exact ⟨_, [_, _], rfl, leading?_three rest htwo hthree⟩
      next hthree => exact ⟨_, [_, _, _], rfl, leading?_four rest hthree⟩

/-! ## Texts -/

/-- What is encoded first is decoded first. -/
theorem decode_encodeChar (c : Char) (rest : List UInt8) :
    decode (encodeChar c ++ rest) = .ok c :: decode rest := by
  obtain ⟨a, bytes, hbytes, hleading⟩ := leading?_encodeChar c rest
  rw [hbytes, List.cons_append, decode]
  simp only [hleading, List.drop_left]

/-- **Round trip**: the characters that were encoded come back, and no byte is left over. -/
theorem decode_encodeChars (cs : List Char) : decode (encodeChars cs) = cs.map .ok := by
  induction cs with
  | nil => simp [encodeChars, decode]
  | cons c cs ih =>
    simp only [encodeChars, List.flatMap_cons, List.map_cons] at ih ⊢
    rw [decode_encodeChar, ih]

/-- The bytes of a text are those of a text. -/
theorem text?_encode (s : String) : text? (encode s) = some s := by
  have hchars : ∀ cs : List Char,
      (cs.map fun c => (.ok c : Except UInt8 Char)).mapM Except.toOption = some cs := by
    intro cs
    induction cs with
    | nil => rfl
    | cons c cs ih =>
      rw [List.map_cons, List.mapM_cons, ih]
      rfl
  simp only [text?, encode, decode_encodeChars, hchars, Option.map_some, String.ofList_toList]

/-- An ASCII character is a single byte. -/
theorem encodeChars_of_ascii {cs : List Char} (h : ∀ c ∈ cs, c.toNat < 0x80) :
    encodeChars cs = cs.map fun c => UInt8.ofNat c.toNat := by
  induction cs with
  | nil => rfl
  | cons c cs ih =>
    have hc : encodeChar c = [UInt8.ofNat c.toNat] := by
      simp only [encodeChar, h c List.mem_cons_self, if_true]
    have hcs := ih fun d hd => h d (List.mem_cons_of_mem c hd)
    simp only [encodeChars, List.flatMap_cons, List.map_cons, hc] at hcs ⊢
    rw [hcs, List.singleton_append]

end ChangeFeed.Text.Utf8

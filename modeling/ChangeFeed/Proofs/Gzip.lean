import ChangeFeed.Gzip

/-!
# Gzip: Round trip

The packer at hand is lawful: what it writes is unpacked to the same bytes. What the reader has
ahead of it is told as a list of bits, from which every reader takes a piece off the front. The
code words are found one after the other, and the bits that fill the last byte are passed over with
it.

## Main results

* `Code.read_of_spells`: a code word ahead is read as the symbol that it spells.
* `inflate_deflate`: a block is read up to its end, whatever follows it.
* `unpack_pack`: packed bytes are unpacked to the same bytes.
-/

namespace ChangeFeed.Gzip

/-! ## Numbers as bytes -/

theorem length_littleEndian (width n : Nat) : (littleEndian width n).length = width := by
  induction width generalizing n with
  | zero => rfl
  | succ width ih => simp only [littleEndian, List.length_cons, ih]

theorem ofLittleEndian_littleEndian {width n : Nat} (h : n < Nat.pow 256 width) :
    ofLittleEndian (littleEndian width n) = n := by
  -- The lowest byte comes first, so the induction takes it off the number by division.
  induction width generalizing n with
  | zero =>
    have hzero : n < 1 := h
    simp only [littleEndian, ofLittleEndian]
    omega
  | succ width ih =>
    have hhigh : n / 256 < Nat.pow 256 width := by
      have hproduct : n < Nat.pow 256 width * 256 := h
      exact Nat.div_lt_of_lt_mul (Nat.mul_comm _ 256 ▸ hproduct)
    simp only [littleEndian, ofLittleEndian, ih hhigh, UInt8.toNat_ofNat']
    omega

/-- A piece of known length is taken off the front. -/
theorem takeBytes_append (bytes rest : List UInt8) {n : Nat} (h : bytes.length = n) :
    takeBytes n (bytes ++ rest) = .ok (bytes, rest) := by
  subst h
  simp [takeBytes]

/-- The head has no optional fields, so the packed data begin right behind it. -/
theorem skipHead_head (rest : List UInt8) : skipHead (head ++ rest) = .ok rest := by
  unfold skipHead
  rw [takeBytes_append head rest (n := 10) rfl]
  rfl

/-! ## Bits as bytes -/

theorem length_bitsOf (b : UInt8) : (bitsOf b).length = 8 := by
  simp [bitsOf]

theorem bitsOf_byteOf (a b c d e f g h : Bool) :
    bitsOf (byteOf [a, b, c, d, e, f, g, h]) = [a, b, c, d, e, f, g, h] := by
  -- There are no more than 256 bytes.
  revert a b c d e f g h
  decide +kernel

theorem byteOf_bitsOf (b : UInt8) : byteOf (bitsOf b) = b := by
  have hall : ∀ n < 256, byteOf (bitsOf (.ofNat n)) = .ofNat n := by decide +kernel
  have hb := hall b.toNat b.toNat_lt
  rwa [UInt8.ofNat_toNat] at hb

/-- The bytes can be told from their bits. -/
theorem wholeBytes_flatMap_bitsOf (bytes : List UInt8) :
    wholeBytes (bytes.flatMap bitsOf) = bytes := by
  induction bytes with
  | nil => rfl
  | cons b bytes ih =>
    show byteOf (bitsOf b) :: wholeBytes (bytes.flatMap bitsOf) = b :: bytes
    rw [byteOf_bitsOf, ih]

theorem length_flatMap_bitsOf (bytes : List UInt8) :
    (bytes.flatMap bitsOf).length = 8 * bytes.length := by
  induction bytes with
  | nil => rfl
  | cons b bytes ih =>
    rw [List.flatMap_cons, List.length_append, ih, length_bitsOf, List.length_cons]
    omega

/-- Bits that do not fill a byte are dropped. -/
theorem bitsOf_wholeBytes (bits : List Bool) :
    ∃ dropped, dropped.length < 8 ∧ (wholeBytes bits).flatMap bitsOf ++ dropped = bits := by
  induction bits using wholeBytes.induct with
  | case1 a b c d e f g h bits ih =>
    obtain ⟨dropped, hlength, hbits⟩ := ih
    refine ⟨dropped, hlength, ?_⟩
    rw [wholeBytes, List.flatMap_cons, bitsOf_byteOf, List.append_assoc, hbits]
    rfl
  | case2 bits hshort =>
    -- There is no byte, so all bits are dropped, and they are fewer than eight.
    have hnone : wholeBytes bits = [] := wholeBytes.eq_2 bits hshort
    refine ⟨bits, ?_, by rw [hnone]; rfl⟩
    match bits, hshort with
    | [], _ | [_], _ | [_, _], _ | [_, _, _], _ | [_, _, _, _], _ | [_, _, _, _, _], _
    | [_, _, _, _, _, _], _ | [_, _, _, _, _, _, _], _ => simp
    | a :: b :: c :: d :: e :: f :: g :: h :: bits, hshort =>
      exact absurd rfl (hshort a b c d e f g h bits)

/-- All bits are written, and less than a byte of filling behind them. -/
theorem bitsOf_paddedBytes (bits : List Bool) :
    ∃ filling, filling.length < 8 ∧ (paddedBytes bits).flatMap bitsOf = bits ++ filling := by
  obtain ⟨dropped, hlength, hwhole⟩ := bitsOf_wholeBytes (bits ++ List.replicate 7 false)
  rcases List.append_eq_append_iff.1 hwhole with ⟨lost, hbits, hdropped⟩ | ⟨filling, hbytes, hzeros⟩
  · -- Seven zeros are dropped, and so nothing else.
    have hnone : lost = [] := by
      rw [hdropped, List.length_append, List.length_replicate] at hlength
      exact List.length_eq_zero_iff.1 (by omega)
    rw [hnone, List.append_nil] at hbits
    exact ⟨[], by decide, by rw [List.append_nil]; exact hbits.symm⟩
  · have hseven : filling.length ≤ 7 := by
      have hsum := congrArg List.length hzeros
      rw [List.length_append, List.length_replicate] at hsum
      omega
    exact ⟨filling, by omega, hbytes⟩

/-! ## What is ahead -/

namespace Bits

/-- The bits that a reader has ahead of it. -/
structure Ahead (s : Bits) (bits : List Bool) : Prop where
  all : s.begun ++ s.rest.flatMap bitsOf = bits
  begun_lt : s.begun.length < 8

namespace Ahead

variable {s : Bits} {b : Bool} {bits : List Bool}

/-- The first bit is read, and the others stay ahead. -/
theorem bit (h : s.Ahead (b :: bits)) : ∃ s', s.bit = .ok (b, s') ∧ s'.Ahead bits := by
  obtain ⟨begun, rest⟩ := s
  obtain ⟨hall, hlt⟩ := h
  cases begun with
  | cons first begun =>
    obtain ⟨rfl, rfl⟩ := List.cons.inj hall
    exact ⟨⟨begun, rest⟩, rfl, rfl, Nat.lt_of_succ_lt hlt⟩
  | nil =>
    cases rest with
    | nil => cases hall
    | cons byte rest =>
      -- The next byte is begun.
      have height := length_bitsOf byte
      simp only [List.nil_append, List.flatMap_cons] at hall
      cases hbyte : bitsOf byte with
      | nil => simp [hbyte] at height
      | cons first begun =>
        rw [hbyte] at hall height
        obtain ⟨rfl, rfl⟩ := List.cons.inj hall
        refine ⟨⟨begun, rest⟩, by simp only [Bits.bit, hbyte], rfl, ?_⟩
        simp only [List.length_cons] at height
        show begun.length < 8
        omega

/-- Bits are counted byte by byte, but for the byte that was begun. -/
theorem length_le (h : s.Ahead bits) : bits.length < 8 * s.rest.length + 8 := by
  have hlt := h.begun_lt
  rw [← h.all, List.length_append, length_flatMap_bitsOf]
  omega

/-- What fills the byte that was begun leaves whole bytes. -/
theorem rest_eq {filling : List Bool} {bytes : List UInt8}
    (h : s.Ahead (filling ++ bytes.flatMap bitsOf)) (hfilling : filling.length < 8) :
    s.rest = bytes := by
  have hlt := h.begun_lt
  have hsame : s.begun.length = filling.length := by
    have hlength := congrArg List.length h.all
    simp only [List.length_append, length_flatMap_bitsOf] at hlength
    omega
  have hbits := (List.append_inj h.all hsame).2
  rw [← wholeBytes_flatMap_bitsOf s.rest, hbits, wholeBytes_flatMap_bitsOf]

end Ahead

end Bits

/-! ## Code words -/

/-- The symbol that a whole word stands for. The arguments are those of `find`, with the bits of the
word in place of what is ahead. -/
def Code.symbol? (c : Code) : (counts : List Nat) → (word first index : Nat) → List Bool →
    Option Nat
  | count :: counts, word, first, index, b :: bits =>
    let word := 2 * word + b.toNat
    if word < first + count then
      if bits = [] then c.symbols[index + (word - first)]? else none
    else c.symbol? counts word (2 * (first + count)) (index + count) bits
  | _, _, _, _, _ => none

/-- The word is the code word of the symbol. -/
def Code.Spells (c : Code) (word : List Bool) (symbol : Nat) : Prop :=
  c.symbol? c.counts 0 0 0 word = some symbol

variable {s : Bits} {word bits : List Bool} {symbol : Nat}

/-- What follows a code word is left alone, for no code word is the beginning of another one. -/
theorem Code.find_of_symbol? {c : Code} {counts : List Nat} {value first index : Nat}
    (hword : c.symbol? counts value first index word = some symbol) (h : s.Ahead (word ++ bits)) :
    ∃ s', c.find counts value first index s = .ok (symbol, s') ∧ s'.Ahead bits := by
  induction counts generalizing value first index word s with
  | nil => simp [symbol?] at hword
  | cons count counts ih =>
    cases word with
    | nil => simp [symbol?] at hword
    | cons b word =>
      obtain ⟨s', hbit, hahead⟩ := h.bit
      rw [symbol?] at hword
      simp only [find, hbit, bind, Except.bind]
      split at hword
      next hlt =>
        -- The word ends here.
        split at hword
        next hend =>
          subst hend
          exact ⟨s', by rw [if_pos hlt, hword]; rfl, hahead⟩
        next => cases hword
      next hge =>
        rw [if_neg hge]
        exact ih hword hahead

/-- **Reading**: a code word ahead is read as its symbol. -/
theorem Code.read_of_spells {c : Code} (hword : c.Spells word symbol)
    (h : s.Ahead (word ++ bits)) : ∃ s', c.read s = .ok (symbol, s') ∧ s'.Ahead bits :=
  find_of_symbol? hword h

/-- The fixed code of bytes and lengths. -/
def fixedLiterals : Code := .ofLengths fixedLiteralLengths

/-- The fixed code of distances. -/
def fixedDistances : Code := .ofLengths fixedDistanceLengths

theorem spells_literalWord (b : UInt8) : fixedLiterals.Spells (literalWord b) b.toNat := by
  have hall : ∀ n < 256, fixedLiterals.symbol? fixedLiterals.counts 0 0 0
      (literalWord (.ofNat n)) = some n := by
    decide +kernel
  have hb := hall b.toNat b.toNat_lt
  rwa [UInt8.ofNat_toNat] at hb

theorem spells_endWord : fixedLiterals.Spells endWord endOfBlock := by
  unfold Code.Spells
  decide +kernel

/-! ## A block -/

/-- Bytes are read one by one up to the end of the block, at the cost of one unit of fuel each. -/
theorem codedSymbols_literals (bytes : List UInt8) {fuel : Nat} (hfuel : bytes.length < fuel)
    (h : s.Ahead (bytes.flatMap literalWord ++ (endWord ++ bits))) (out : Array UInt8) :
    ∃ s', codedSymbols fixedLiterals fixedDistances fuel s out = .ok (out ++ bytes.toArray, s') ∧
      s'.Ahead bits := by
  -- Each symbol is read where the one before it ends, and fuel is spent on each.
  induction bytes generalizing fuel s out with
  | nil =>
    obtain ⟨fuel, rfl⟩ := Nat.exists_eq_add_of_lt hfuel
    obtain ⟨s', hread, hahead⟩ := Code.read_of_spells spells_endWord h
    refine ⟨s', ?_, hahead⟩
    simp [codedSymbols, hread, bind, Except.bind, pure, Except.pure]
  | cons b bytes ih =>
    obtain ⟨fuel, rfl⟩ := Nat.exists_eq_add_of_lt hfuel
    rw [List.flatMap_cons, List.append_assoc] at h
    obtain ⟨s', hread, hahead⟩ := Code.read_of_spells (spells_literalWord b) h
    have hfuel' : bytes.length < bytes.length + 1 + fuel := by omega
    obtain ⟨s'', hrest, hahead'⟩ := ih hfuel' hahead (out.push b)
    refine ⟨s'', ?_, hahead'⟩
    have hbyte : b.toNat < endOfBlock := b.toNat_lt
    have hout : out.push b ++ bytes.toArray = out ++ (b :: bytes).toArray := by simp
    rw [List.length_cons, codedSymbols]
    simp only [hread, bind, Except.bind, if_pos hbyte, UInt8.ofNat_toNat, hrest, hout]

/-- There are at least as many bits in a block as there are bytes in it. -/
theorem length_le_flatMap_literalWord (bytes : List UInt8) :
    bytes.length ≤ (bytes.flatMap literalWord).length := by
  induction bytes with
  | nil => exact Nat.le_refl 0
  | cons b bytes ih =>
    have hword : 1 ≤ (literalWord b).length := by
      unfold literalWord
      split <;> simp [highestFirst]
    rw [List.flatMap_cons, List.length_append, List.length_cons]
    omega

/-- A block that is the last one is read up to its end, and what follows it is given back. -/
theorem inflateBlocks_deflate (fuel : Nat) (bytes rest : List UInt8) :
    inflateBlocks (fuel + 1) ⟨[], deflate bytes ++ rest⟩ #[] = .ok (bytes.toArray, rest) := by
  obtain ⟨filling, hfilling, hbits⟩ :=
    bitsOf_paddedBytes (blockHead ++ (bytes.flatMap literalWord ++ endWord))
  have h : Bits.Ahead ⟨[], deflate bytes ++ rest⟩
      (true :: true :: false :: (bytes.flatMap literalWord ++
        (endWord ++ (filling ++ rest.flatMap bitsOf)))) := by
    refine ⟨?_, Nat.zero_lt_succ 7⟩
    rw [deflate, List.flatMap_append, hbits]
    simp [blockHead]
  -- The head says that the block is the last one, and that it is written with the fixed code.
  obtain ⟨s₁, hlast, h₁⟩ := h.bit
  obtain ⟨s₂, hlow, h₂⟩ := h₁.bit
  obtain ⟨s₃, hhigh, h₃⟩ := h₂.bit
  have hkind : Bits.number 2 s₁ = .ok (1, s₃) := by
    simp [Bits.number, hlow, hhigh, bind, Except.bind, pure, Except.pure]
  -- Every byte takes at least one of the bits that are left, so there is fuel for all of them.
  have hfuel : bytes.length < 8 * s₃.rest.length + 9 := by
    have hcount := length_le_flatMap_literalWord bytes
    have hbound := h₃.length_le
    simp only [List.length_append] at hbound
    omega
  obtain ⟨s₄, hcoded, h₄⟩ := codedSymbols_literals bytes hfuel h₃ #[]
  have hrest : s₄.rest = rest := h₄.rest_eq hfilling
  rw [inflateBlocks, hlast]
  simp only [bind, Except.bind, hkind]
  rw [← fixedLiterals, ← fixedDistances, hcoded]
  simp [hrest, pure, Except.pure]

/-! ## Whole data -/

theorem inflate_deflate (bytes rest : List UInt8) :
    inflate (deflate bytes ++ rest) = .ok (bytes, rest) := by
  rw [inflate, inflateBlocks_deflate]
  rfl

/-- **Round trip**: packed bytes are unpacked to the same bytes. -/
theorem unpack_pack (bytes : List UInt8) : unpack (pack bytes) = .ok bytes := by
  have hchecksum : ofLittleEndian (littleEndian 4 (checksum bytes).toNat) =
      (checksum bytes).toNat := ofLittleEndian_littleEndian (checksum bytes).toNat_lt
  have hlength : ofLittleEndian (littleEndian 4 (bytes.length % UInt32.size)) =
      bytes.length % UInt32.size :=
    ofLittleEndian_littleEndian (Nat.mod_lt _ (by decide))
  -- Behind the block stand the checksum and the length, four bytes each.
  have htrailer := takeBytes_append
    (littleEndian 4 (checksum bytes).toNat ++ littleEndian 4 (bytes.length % UInt32.size)) []
    (n := 8) (by simp [length_littleEndian])
  rw [List.append_nil] at htrailer
  unfold unpack pack
  rw [List.append_assoc, List.append_assoc, skipHead_head]
  have hinflate (rest : List UInt8) :
      (inflate (deflate bytes ++ rest)).mapError Fault.ofPack = .ok (bytes, rest) := by
    rw [inflate_deflate]
    rfl
  simp only [bind, Except.bind, hinflate, htrailer]
  -- Both are those of the bytes that were unpacked.
  rw [List.take_left' (length_littleEndian 4 _), List.drop_left' (length_littleEndian 4 _),
    if_pos ⟨hchecksum, hlength⟩]
  rfl

instance : LawfulPacker := ⟨unpack_pack⟩

end ChangeFeed.Gzip

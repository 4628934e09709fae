/-!
# Gzip: Bits and codes

Bits are taken from bytes, the lowest first. A canonical prefix code is given by the lengths of its
code words.
-/

namespace ChangeFeed.Gzip

/-! ## Bits -/

/-- What is left of packed data: the bits left of the byte that was begun, and the bytes behind it.
-/
structure Bits where
  begun : List Bool
  rest : List UInt8

/-- The bits of a byte, the lowest first. -/
def bitsOf (b : UInt8) : List Bool :=
  (List.range 8).map fun k => b.toNat / Nat.pow 2 k % 2 = 1

/-- Why packed data cannot be unpacked. -/
inductive PackFault where
  /-- The data end within a block. -/
  | incomplete
  | corrupt
  deriving DecidableEq, Repr

/-- The result of unpacking a part. -/
abbrev Unpacked := Except PackFault

namespace Bits

def bit (s : Bits) : Unpacked (Bool × Bits) :=
  match s.begun with
  | b :: bs => .ok (b, ⟨bs, s.rest⟩)
  | [] =>
    match s.rest with
    | [] => .error .incomplete
    | byte :: rest =>
      match bitsOf byte with
      | b :: bs => .ok (b, ⟨bs, rest⟩)
      | [] => .error .incomplete

/-- The number whose lowest bits come first. -/
def number : (width : Nat) → Bits → Unpacked (Nat × Bits)
  | 0, s => .ok (0, s)
  | width + 1, s => do
    let (b, s) ← s.bit
    let (n, s) ← number width s
    return (b.toNat + 2 * n, s)

/-- The data behind the byte that was begun. -/
def aligned (s : Bits) : Bits := ⟨[], s.rest⟩

end Bits

/-! ## Codes -/

/-- The greatest length of a code word. -/
def maxLength : Nat := 15

/-- A prefix code. -/
structure Code where
  /-- How many code words there are of each length. -/
  counts : List Nat
  /-- The symbols in the order of their code words. -/
  symbols : Array Nat

/-- The symbols whose code words have the given length. -/
def symbolsOfLength (lengths : List Nat) (length : Nat) : List Nat :=
  (lengths.zipIdx.filter fun e => e.1 = length).map Prod.snd

/-- The code with the given lengths, in the order of the symbols; a symbol without code word has
length zero. -/
def Code.ofLengths (lengths : List Nat) : Code :=
  let byLength := (List.range maxLength).map fun k => symbolsOfLength lengths (k + 1)
  ⟨byLength.map List.length, byLength.flatten.toArray⟩

/-- The part of all words that the code words begin, in units of those of the greatest length. -/
def Code.covered (c : Code) : Nat :=
  c.counts.zipIdx.foldl (fun n e => n + e.1 * Nat.pow 2 (maxLength - 1 - e.2)) 0

/-- Every word begins with a code word, and no two code words are in conflict. -/
def Code.isComplete (c : Code) : Bool := c.covered = Nat.pow 2 maxLength

/-- Finds the symbol of the code word ahead. `word` are the bits so far, `first` the first code word
of the length ahead, and `index` the number of shorter ones. -/
def Code.find (c : Code) : (counts : List Nat) → (word first index : Nat) → Bits →
    Unpacked (Nat × Bits)
  | [], _, _, _, _ => .error .corrupt
  | count :: counts, word, first, index, s => do
    let (b, s) ← s.bit
    -- The code words of a length are consecutive numbers, from `first` on.
    let word := 2 * word + b.toNat
    if word < first + count then
      match c.symbols[index + (word - first)]? with
      | some symbol => return (symbol, s)
      | none => .error .corrupt
    else c.find counts word (2 * (first + count)) (index + count) s

/-- Reads a symbol. -/
def Code.read (c : Code) (s : Bits) : Unpacked (Nat × Bits) := c.find c.counts 0 0 0 s

end ChangeFeed.Gzip

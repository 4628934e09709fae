import ChangeFeed.Gzip.Huffman

/-!
# Gzip: Unpacking

Packed data are a sequence of blocks. A block is stored as it is, or written with prefix codes for
bytes and for copies of what has been unpacked before.
-/

namespace ChangeFeed.Gzip

/-! ## Stored blocks -/

/-- The number of two bytes, the lower first. -/
def number16 (low high : UInt8) : Nat := low.toNat + 256 * high.toNat

/-- A stored block: its length, the complement of the length, and its bytes. -/
def storedBlock (s : Bits) (out : Array UInt8) : Unpacked (Array UInt8 × Bits) :=
  match s.rest with
  | a :: b :: c :: d :: rest =>
    let length := number16 a b
    if length + number16 c d ≠ 65535 then .error .corrupt
    else if rest.length < length then .error .incomplete
    else .ok (out ++ (rest.take length).toArray, ⟨[], rest.drop length⟩)
  | _ => .error .incomplete

/-! ## Blocks with codes -/

/-- The shortest length and the number of further bits of each symbol of a length. -/
def lengthSteps : List (Nat × Nat) :=
  [(3, 0), (4, 0), (5, 0), (6, 0), (7, 0), (8, 0), (9, 0), (10, 0), (11, 1), (13, 1), (15, 1),
   (17, 1), (19, 2), (23, 2), (27, 2), (31, 2), (35, 3), (43, 3), (51, 3), (59, 3), (67, 4),
   (83, 4), (99, 4), (115, 4), (131, 5), (163, 5), (195, 5), (227, 5), (258, 0)]

/-- The shortest distance and the number of further bits of each symbol of a distance. -/
def distanceSteps : List (Nat × Nat) :=
  [(1, 0), (2, 0), (3, 0), (4, 0), (5, 1), (7, 1), (9, 2), (13, 2), (17, 3), (25, 3), (33, 4),
   (49, 4), (65, 5), (97, 5), (129, 6), (193, 6), (257, 7), (385, 7), (513, 8), (769, 8),
   (1025, 9), (1537, 9), (2049, 10), (3073, 10), (4097, 11), (6145, 11), (8193, 12),
   (12289, 12), (16385, 13), (24577, 13)]

/-- A length or distance: its symbol's least value and the further bits. -/
def stepValue (steps : List (Nat × Nat)) (symbol : Nat) (s : Bits) : Unpacked (Nat × Bits) :=
  match steps[symbol]? with
  | none => .error .corrupt
  | some (least, width) => do
    let (more, s) ← Bits.number width s
    return (least + more, s)

/-- Appends `length` bytes that were unpacked `distance` bytes before; what lies before the start
counts as zero. -/
def copyBack (distance : Nat) : (length : Nat) → Array UInt8 → Array UInt8
  | 0, out => out
  | length + 1, out =>
    let b := if distance ≤ out.size then out.getD (out.size - distance) 0 else 0
    copyBack distance length (out.push b)

/-- The symbol that ends a block. -/
def endOfBlock : Nat := 256

/-- The bytes and copies of a block, up to its end. `fuel` bounds the number of symbols. -/
def codedSymbols (literals distances : Code) : (fuel : Nat) → Bits → Array UInt8 →
    Unpacked (Array UInt8 × Bits)
  | 0, _, _ => .error .incomplete
  | fuel + 1, s, out => do
    let (symbol, s) ← literals.read s
    if symbol < endOfBlock then codedSymbols literals distances fuel s (out.push (.ofNat symbol))
    else if symbol = endOfBlock then return (out, s)
    else
      -- A copy is a length, and then a distance in a code of its own.
      let (length, s) ← stepValue lengthSteps (symbol - 257) s
      let (symbol, s) ← distances.read s
      let (distance, s) ← stepValue distanceSteps symbol s
      codedSymbols literals distances fuel s (copyBack distance length out)

/-! ### The codes of a block -/

/-- The lengths of the fixed code of bytes and lengths. -/
def fixedLiteralLengths : List Nat :=
  List.replicate 144 8 ++ List.replicate 112 9 ++ List.replicate 24 7 ++ List.replicate 8 8

/-- The lengths of the fixed code of distances. -/
def fixedDistanceLengths : List Nat := List.replicate 32 5

/-- The order in which the lengths of the code of lengths are written. -/
def lengthOrder : List Nat := [16, 17, 18, 0, 8, 7, 9, 6, 10, 5, 11, 4, 12, 3, 13, 2, 14, 1, 15]

/-- Reads numbers of three bits. -/
def readTriples : (count : Nat) → Bits → Unpacked (List Nat × Bits)
  | 0, s => .ok ([], s)
  | count + 1, s => do
    let (n, s) ← Bits.number 3 s
    let (ns, s) ← readTriples count s
    return (n :: ns, s)

/-- The value that is repeated, the least number of repetitions and the width of what is added, for
a symbol of the code of lengths that stands for a repetition. -/
def repetition (symbol : Nat) (done : Array Nat) : Unpacked (Nat × Nat × Nat) :=
  match symbol with
  | 16 =>
    match done.back? with
    | some last => .ok (last, 3, 2)
    | none => .error .corrupt
  | 17 => .ok (0, 3, 3)
  | _ => .ok (0, 11, 7)

/-- Reads `total` lengths of code words. -/
def readLengths (lengthCode : Code) (total : Nat) : (fuel : Nat) → Bits → Array Nat →
    Unpacked (Array Nat × Bits)
  | 0, s, done => .ok (done, s)
  | fuel + 1, s, done =>
    if total ≤ done.size then .ok (done, s)
    else do
      let (symbol, s) ← lengthCode.read s
      if symbol < 16 then readLengths lengthCode total fuel s (done.push symbol)
      else
        let (value, least, width) ← repetition symbol done
        let (more, s) ← Bits.number width s
        readLengths lengthCode total fuel s (done ++ Array.replicate (least + more) value)

/-- A code is usable if it is complete, or if it has one code word at most. -/
def checkCode (c : Code) : Unpacked Code :=
  if c.isComplete || c.symbols.size ≤ 1 then .ok c else .error .corrupt

/-- Reads the codes at the start of a block. -/
def readCodes (s : Bits) : Unpacked (Code × Code × Bits) := do
  let (literals, s) ← Bits.number 5 s
  let (distances, s) ← Bits.number 5 s
  let (triples, s) ← Bits.number 4 s
  let literals := literals + 257
  let distances := distances + 1
  if 286 < literals ∨ 30 < distances then throw .corrupt
  let (lengths, s) ← readTriples (triples + 4) s
  -- The lengths of the code for lengths come in an order of their own.
  let written := lengthOrder.zip lengths
  let lengthCode := Code.ofLengths ((List.range 19).map fun k => (written.lookup k).getD 0)
  if !lengthCode.isComplete then throw .corrupt
  let total := literals + distances
  let (lengths, s) ← readLengths lengthCode total total s #[]
  -- A repetition must not reach beyond the last length.
  if lengths.size ≠ total then throw .corrupt
  let literalCode ← checkCode (.ofLengths (lengths.toList.take literals))
  let distanceCode ← checkCode (.ofLengths (lengths.toList.drop literals))
  return (literalCode, distanceCode, s)

/-! ## All blocks -/

/-- Unpacks blocks up to the last one; what follows it is given back. `fuel` bounds the number of
blocks, and of the symbols of each. -/
def inflateBlocks : (fuel : Nat) → Bits → Array UInt8 → Unpacked (Array UInt8 × List UInt8)
  | 0, _, _ => .error .incomplete
  | fuel + 1, s, out => do
    let (last, s) ← s.bit
    let (kind, s) ← Bits.number 2 s
    let (out, s) ←
      match kind with
      -- What is left of the byte that was begun is dropped.
      | 0 => storedBlock s.aligned out
      | 1 =>
        codedSymbols (.ofLengths fixedLiteralLengths) (.ofLengths fixedDistanceLengths)
          (8 * s.rest.length + 9) s out
      | 2 => do
        let (literals, distances, s) ← readCodes s
        codedSymbols literals distances (8 * s.rest.length + 9) s out
      | _ => .error .corrupt
    if last then return (out, s.rest) else inflateBlocks fuel s out

/-- Unpacks data; what follows them is given back. -/
def inflate (bytes : List UInt8) : Unpacked (List UInt8 × List UInt8) := do
  let (out, rest) ← inflateBlocks (8 * bytes.length + 1) ⟨[], bytes⟩ #[]
  return (out.toList, rest)

end ChangeFeed.Gzip

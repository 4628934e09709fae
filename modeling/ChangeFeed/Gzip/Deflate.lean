import ChangeFeed.Gzip.Huffman

/-!
# Gzip: Writing a block

A single block, in which every byte is written by itself with the fixed prefix code. Short data in
which nothing is repeated are always packed in this way; others may also be packed in fewer bits.
-/

namespace ChangeFeed.Gzip

/-! ## Bits as bytes -/

/-- The byte with the given bits, the lowest first. -/
def byteOf (bits : List Bool) : UInt8 :=
  .ofNat (bits.foldr (fun b n => b.toNat + 2 * n) 0)

/-- Bits as bytes; what does not fill a byte at the end is dropped. -/
def wholeBytes : List Bool → List UInt8
  | a :: b :: c :: d :: e :: f :: g :: h :: rest =>
    byteOf [a, b, c, d, e, f, g, h] :: wholeBytes rest
  | _ => []

/-- Bits as bytes, the last one filled up with zeros. -/
def paddedBytes (bits : List Bool) : List UInt8 := wholeBytes (bits ++ List.replicate 7 false)

/-! ## Code words -/

/-- The lowest bits of a number, the highest of them first. -/
def highestFirst : (width : Nat) → Nat → List Bool
  | 0, _ => []
  | width + 1, n => n.testBit width :: highestFirst width n

/-- The code word of a byte in the fixed code. -/
def literalWord (b : UInt8) : List Bool :=
  if b.toNat < 144 then highestFirst 8 (48 + b.toNat) else highestFirst 9 (256 + b.toNat)

/-- The code word for the end of a block in the fixed code. -/
def endWord : List Bool := highestFirst 7 0

/-- The head of a block that is the last one and is written with the fixed code. -/
def blockHead : List Bool := [true, true, false]

/-- Bytes as a block. -/
def deflate (bytes : List UInt8) : List UInt8 :=
  paddedBytes (blockHead ++ (bytes.flatMap literalWord ++ endWord))

end ChangeFeed.Gzip

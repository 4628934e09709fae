/-!
# Gzip: Checksum

The cyclic redundancy check of 32 bits, computed bit by bit.
-/

namespace ChangeFeed.Gzip

/-- The polynomial of the check, with its bits in reverse order. -/
def polynomial : UInt32 := 0xedb88320

def checkBit (c : UInt32) : UInt32 := if c &&& 1 = 1 then (c >>> 1) ^^^ polynomial else c >>> 1

def checkByte (c : UInt32) (b : UInt8) : UInt32 :=
  Nat.repeat checkBit 8 (c ^^^ b.toUInt32)

def checksum (bytes : List UInt8) : UInt32 :=
  (bytes.foldl checkByte 0xffffffff) ^^^ 0xffffffff

end ChangeFeed.Gzip

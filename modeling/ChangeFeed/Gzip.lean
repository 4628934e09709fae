import ChangeFeed.Gzip.Checksum
import ChangeFeed.Gzip.Deflate
import ChangeFeed.Gzip.Inflate

/-!
# Gzip

Packed data with a head in front, and the checksum and the length of the unpacked data behind. Data
can be packed in many ways, and whoever packs them is free to choose. Unpacking reads them all.
-/

namespace ChangeFeed.Gzip

/-! ## Numbers as bytes -/

/-- A number as `width` bytes, the lowest first. -/
def littleEndian : (width : Nat) → Nat → List UInt8
  | 0, _ => []
  | width + 1, n => UInt8.ofNat n :: littleEndian width (n / 256)

/-- The number of bytes, the lowest first. -/
def ofLittleEndian : List UInt8 → Nat
  | [] => 0
  | b :: bs => b.toNat + 256 * ofLittleEndian bs

/-- The greatest length of an optional field of the head. -/
def maxField : Nat := 65535

/-! ## Unpacking -/

/-- Why bytes cannot be unpacked. -/
inductive Fault where
  | badHead
  | longField
  | endsEarly
  | incomplete
  | corrupt
  | checksum
  deriving DecidableEq, Repr

def Fault.message : Fault → String
  | .badHead => "invalid gzip header"
  | .longField => "gzip header field too long"
  | .endsEarly => "unexpected end of file"
  | .incomplete => "incomplete deflate stream"
  | .corrupt => "corrupt deflate stream"
  | .checksum => "corrupt gzip stream does not have a matching checksum"

/-- The optional parts of a head, as bits of its flags. -/
def hasFlag (flags : UInt8) (bit : Nat) : Bool := flags.toNat / Nat.pow 2 bit % 2 = 1

/-- The bytes before the next zero, and what follows the zero. -/
def zeroEnded (bytes : List UInt8) : Except Fault (List UInt8 × List UInt8) :=
  let field := bytes.takeWhile (· ≠ 0)
  if maxField < field.length then .error .longField
  else
    match bytes.dropWhile (· ≠ 0) with
    | [] => .error .endsEarly
    | _ :: rest => .ok (field, rest)

def takeBytes (n : Nat) (bytes : List UInt8) : Except Fault (List UInt8 × List UInt8) :=
  if bytes.length < n then .error .endsEarly else .ok (bytes.take n, bytes.drop n)

/-- Passes over a part of the head if its flag is set. -/
def optionalPart (present : Bool) (bytes : List UInt8)
    (part : List UInt8 → Except Fault (List UInt8)) : Except Fault (List UInt8) :=
  if present then part bytes else .ok bytes

/-- Passes over the head. -/
def skipHead (bytes : List UInt8) : Except Fault (List UInt8) := do
  let (start, rest) ← takeBytes 10 bytes
  let flags := start.getD 3 0
  if start.take 3 ≠ [0x1f, 0x8b, 8] ∨ 32 ≤ flags.toNat then throw .badHead
  let rest ← optionalPart (hasFlag flags 2) rest fun rest => do
    let (length, rest) ← takeBytes 2 rest
    return (← takeBytes (ofLittleEndian length) rest).2
  let rest ← optionalPart (hasFlag flags 3) rest fun rest => return (← zeroEnded rest).2
  let rest ← optionalPart (hasFlag flags 4) rest fun rest => return (← zeroEnded rest).2
  optionalPart (hasFlag flags 1) rest fun rest => do
    let (check, behind) ← takeBytes 2 rest
    let head := bytes.take (bytes.length - rest.length)
    if ofLittleEndian check = (checksum head).toNat % 65536 then return behind
    else throw .checksum

def Fault.ofPack : PackFault → Fault
  | .incomplete => .incomplete
  | .corrupt => .corrupt

/-- Unpacks bytes; what follows the checksum and the length is passed over. -/
def unpack (bytes : List UInt8) : Except Fault (List UInt8) := do
  let packed ← skipHead bytes
  let (out, rest) ← (inflate packed).mapError .ofPack
  let (trailer, _) ← takeBytes 8 rest
  if ofLittleEndian (trailer.take 4) = (checksum out).toNat ∧
      ofLittleEndian (trailer.drop 4) = out.length % UInt32.size then return out
  else throw .checksum

/-! ## Packing -/

/-- Whatever packs bytes: how it divides them into blocks, which codes it takes, and which
repetitions it finds, is its own affair. -/
class Packer where
  pack : List UInt8 → List UInt8

/-- What is relied on: packed bytes are unpacked to the same bytes. -/
class LawfulPacker [Packer] : Prop where
  unpack_pack (bytes : List UInt8) : unpack (Packer.pack bytes) = .ok bytes

/-- The head: the mark of the format, the kind of packing, and nothing else. -/
def head : List UInt8 := [0x1f, 0x8b, 8, 0, 0, 0, 0, 0, 0, 255]

/-- Bytes in a single block. -/
def pack (bytes : List UInt8) : List UInt8 :=
  head ++ deflate bytes ++ littleEndian 4 (checksum bytes).toNat ++
    littleEndian 4 (bytes.length % UInt32.size)

/-- A packer is at hand wherever no other one is given. -/
instance : Packer := ⟨pack⟩

end ChangeFeed.Gzip

/-!
# Text: UTF-8

The bytes of a text, and the characters of bytes. A byte that belongs to no character stands for
itself.
-/

namespace ChangeFeed.Text.Utf8

/-! ## Encoding -/

/-- A byte that continues a character, with its six bits. -/
def continuation (bits : Nat) : UInt8 := UInt8.ofNat (0x80 + bits % 64)

def encodeChar (c : Char) : List UInt8 :=
  let n := c.toNat
  if n < 0x80 then [UInt8.ofNat n]
  else if n < 0x800 then [UInt8.ofNat (0xc0 + n / 64), continuation n]
  else if n < 0x10000 then
    [UInt8.ofNat (0xe0 + n / 4096), continuation (n / 64), continuation n]
  else
    [UInt8.ofNat (0xf0 + n / 262144), continuation (n / 4096), continuation (n / 64),
     continuation n]

def encodeChars (cs : List Char) : List UInt8 := cs.flatMap encodeChar

def encode (s : String) : List UInt8 := encodeChars s.toList

/-! ## Decoding -/

/-- The six bits of a byte that continues a character. -/
def bits? (b : UInt8) : Option Nat :=
  if 0x80 ≤ b.toNat ∧ b.toNat < 0xc0 then some (b.toNat - 0x80) else none

/-- The character with the given number, if it is not below `least`. -/
def char? (least n : Nat) : Option Char :=
  if least ≤ n ∧ n.isValidChar then some (Char.ofNat n) else none

/-- The character that begins with the byte `a`, and how many of the bytes behind it belong to
it. -/
def leading? (a : UInt8) (rest : List UInt8) : Option (Char × Nat) :=
  let n := a.toNat
  if n < 0x80 then some (Char.ofNat n, 0)
  else if n < 0xc0 then none
  else if n < 0xe0 then
    match rest with
    | b :: _ => do
      let c ← char? 0x80 ((n - 0xc0) * 64 + (← bits? b))
      return (c, 1)
    | _ => none
  else if n < 0xf0 then
    match rest with
    | b :: b' :: _ => do
      let c ← char? 0x800 ((n - 0xe0) * 4096 + (← bits? b) * 64 + (← bits? b'))
      return (c, 2)
    | _ => none
  else if n < 0xf8 then
    match rest with
    | b :: b' :: b'' :: _ => do
      let c ← char? 0x10000
        ((n - 0xf0) * 262144 + (← bits? b) * 4096 + (← bits? b') * 64 + (← bits? b''))
      return (c, 3)
    | _ => none
  else none

/-- The characters of bytes, and the bytes that belong to none. -/
def decode : List UInt8 → List (Except UInt8 Char)
  | [] => []
  | a :: rest =>
    match leading? a rest with
    | some (c, k) => .ok c :: decode (rest.drop k)
    | none => .error a :: decode rest
termination_by bytes => bytes.length
decreasing_by
  · simp only [List.length_drop, List.length_cons]; omega
  · simp

/-- The text of bytes, if all of them belong to characters. -/
def text? (bytes : List UInt8) : Option String :=
  ((decode bytes).mapM Except.toOption).map String.ofList

end ChangeFeed.Text.Utf8

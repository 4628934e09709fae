/-!
# Text: Base64

Three bytes are written as four symbols of six bits each. A last group of one or two bytes is filled
up with `=`; the bits of its last symbol that belong to no byte are zero.
-/

namespace ChangeFeed.Text.Base64

/-! ## Symbols -/

/-- The symbols in the order of their values. -/
def alphabet : List Char :=
  "ABCDEFGHIJKLMNOPQRSTUVWXYZabcdefghijklmnopqrstuvwxyz0123456789+/".toList

/-- The symbol of a value below 64. -/
def symbol (value : Nat) : Char := alphabet.getD value '='

def value? (b : UInt8) : Option Nat :=
  let n := b.toNat
  if 65 ≤ n ∧ n ≤ 90 then some (n - 65)
  else if 97 ≤ n ∧ n ≤ 122 then some (n - 97 + 26)
  else if 48 ≤ n ∧ n ≤ 57 then some (n - 48 + 52)
  else if n = 43 then some 62
  else if n = 47 then some 63
  else none

/-- The byte that fills up the last group. -/
def filler : UInt8 := 61

/-! ## Encoding -/

def symbols : List UInt8 → List Char
  | [] => []
  | [a] => [symbol (a.toNat / 4), symbol (a.toNat % 4 * 16), '=', '=']
  | [a, b] =>
    [symbol (a.toNat / 4), symbol (a.toNat % 4 * 16 + b.toNat / 16), symbol (b.toNat % 16 * 4),
     '=']
  | a :: b :: c :: rest =>
    symbol (a.toNat / 4) :: symbol (a.toNat % 4 * 16 + b.toNat / 16) ::
      symbol (b.toNat % 16 * 4 + c.toNat / 64) :: symbol (c.toNat % 64) :: symbols rest

def encode (bytes : List UInt8) : String := String.ofList (symbols bytes)

/-! ## Decoding -/

/-- Why bytes are not the text of other bytes. -/
inductive Fault where
  | symbol (byte : UInt8) (offset : Nat)
  | length (n : Nat)
  | lastSymbol (byte : UInt8) (offset : Nat)
  | padding
  deriving DecidableEq, Repr

def Fault.message : Fault → String
  | .symbol byte offset =>
    "Invalid symbol " ++ toString byte.toNat ++ ", offset " ++ toString offset ++ "."
  | .length n => "Invalid input length: " ++ toString n
  | .lastSymbol byte offset =>
    "Invalid last symbol " ++ toString byte.toNat ++ ", offset " ++ toString offset ++ "."
  | .padding => "Invalid padding"

def valueAt (offset : Nat) (b : UInt8) : Except Fault Nat :=
  match value? b with
  | some v => .ok v
  | none => .error (.symbol b offset)

/-- The three bytes of a whole group. -/
def wholeGroup (v₀ v₁ v₂ v₃ : Nat) : List UInt8 :=
  [UInt8.ofNat (v₀ * 4 + v₁ / 16), UInt8.ofNat (v₁ % 16 * 16 + v₂ / 4),
   UInt8.ofNat (v₂ % 4 * 64 + v₃)]

/-- The values of the symbols of the last group, and the number of fillers behind them. A filler
comes behind two symbols at least, and a symbol behind none. -/
def lastValues (start : Nat) : (index : Nat) → (fillers : Nat) → List UInt8 →
    Except Fault (List Nat × Nat)
  | _, fillers, [] => .ok ([], fillers)
  | index, fillers, b :: rest =>
    if b = filler then
      if index < 2 then .error (.symbol b (start + index))
      else lastValues start (index + 1) (fillers + 1) rest
    else if 0 < fillers then .error (.symbol filler (start + index - fillers))
    else do
      let v ← valueAt (start + index) b
      let (vs, fillers) ← lastValues start (index + 1) 0 rest
      return (v :: vs, fillers)

def lastGroup (start : Nat) (group : List UInt8) : Except Fault (List UInt8) := do
  let (values, fillers) ← lastValues start 0 0 group
  let last := group.getD (values.length - 1) 0
  match values with
  | [] => if group.isEmpty then .ok [] else .error (.length start)
  | [_] => .error (.length (start + 1))
  | [v₀, v₁] =>
    if fillers ≠ 2 then .error .padding
    else if v₁ % 16 ≠ 0 then .error (.lastSymbol last (start + 1))
    else .ok [UInt8.ofNat (v₀ * 4 + v₁ / 16)]
  | [v₀, v₁, v₂] =>
    if fillers ≠ 1 then .error .padding
    else if v₂ % 4 ≠ 0 then .error (.lastSymbol last (start + 2))
    else .ok [UInt8.ofNat (v₀ * 4 + v₁ / 16), UInt8.ofNat (v₁ % 16 * 16 + v₂ / 4)]
  | v₀ :: v₁ :: v₂ :: v₃ :: _ => .ok (wholeGroup v₀ v₁ v₂ v₃)

/-- The bytes of groups, of which the first begins at an offset. -/
def groups (start : Nat) : List UInt8 → Except Fault (List UInt8)
  | a :: b :: c :: d :: e :: rest => do
    let v₀ ← valueAt start a
    let v₁ ← valueAt (start + 1) b
    let v₂ ← valueAt (start + 2) c
    let v₃ ← valueAt (start + 3) d
    let more ← groups (start + 4) (e :: rest)
    return wholeGroup v₀ v₁ v₂ v₃ ++ more
  | group => lastGroup start group

/-- The bytes that a text, given by its own bytes, stands for. A single byte behind whole groups is
looked at first. -/
def decode (text : List UInt8) : Except Fault (List UInt8) :=
  match text.getLast? with
  | some b =>
    if text.length % 4 = 1 ∧ b ≠ filler ∧ value? b = none then
      .error (.symbol b (text.length - 1))
    else groups 0 text
  | none => .ok []

end ChangeFeed.Text.Base64

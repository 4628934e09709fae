import ChangeFeed.Json

/-!
# JSON: The value of a numeral

A numeral without fraction and exponent is an integer if it fits in 64 bits. Any other is a
floating-point number: its first digits that fit in 64 bits are taken as a whole number, which is
then multiplied or divided by a power of ten, with one rounding for each step.
-/

namespace ChangeFeed.Json

/-- A numeral, taken apart. -/
structure Numeral where
  negative : Bool
  whole : List Nat
  fraction : Option (List Nat)
  /-- The sign and the digits of the exponent; a negative exponent is marked with `true`. -/
  exponent : Option (Bool × List Nat)
  deriving Repr

namespace Numeral

/-- The greatest whole number that is taken exactly. -/
def maxSignificand : Nat := UInt64.size - 1

/-- The greatest exponent that is taken exactly. -/
def maxExponent : Nat := Nat.pow 2 31 - 1

/-- Appends digits to a number while the result is at most `bound`; the number of digits left. -/
def absorb (bound n : Nat) : List Nat → Nat × Nat
  | [] => (n, 0)
  | d :: ds => if n * 10 + d ≤ bound then absorb bound (n * 10 + d) ds else (n, ds.length + 1)

/-- A number that is not negative, times a power of ten; nothing if it becomes infinite. `steps`
bounds the number of divisions by the greatest power of ten. -/
def scale : (steps : Nat) → Binary64 → Int → Option Binary64
  | 0, x, _ => some x
  | steps + 1, x, e =>
    if 0 ≤ e then
      if e ≤ 308 then
        let y := x.mul (.pow10 e.toNat)
        if y.isFinite then some y else none
      else if x.isZero then some x
      else none
    else if -308 ≤ e then some (x.div (.pow10 (-e).toNat))
    else if x.isZero then some x
    else scale steps (x.div (.pow10 308)) (e + 308)

def signed (negative : Bool) (x : Binary64) : Binary64 := if negative then x.neg else x

/-- The digits of the exponent up to the one with which it becomes too large, if it does. -/
def exponentOverflow? (n : Numeral) : Option Nat :=
  match n.exponent with
  | some (_, digits) =>
    let (_, left) := absorb maxExponent 0 digits
    if left = 0 then none else some (digits.length - left + 1)
  | none => none

/-- The significand and the power of ten of a numeral without its exponent. -/
def parts (n : Numeral) : Nat × Int :=
  let (s, skipped) := absorb maxSignificand 0 n.whole
  let fraction := n.fraction.getD []
  let (s, unread) := absorb maxSignificand s fraction
  (s, (skipped : Int) - ((fraction.length - unread : Nat) : Int))

/-- The floating-point number that a numeral stands for; nothing if it is too large. -/
def float? (n : Numeral) : Option Binary64 :=
  let (s, e) := n.parts
  let negativeExponent := (n.exponent.map Prod.fst).getD false
  if n.exponentOverflow?.isSome then
    if s ≠ 0 && !negativeExponent then none else some (signed n.negative .zero)
  else
    let (x, _) := absorb maxExponent 0 ((n.exponent.map Prod.snd).getD [])
    let e := if negativeExponent then e - x else e + x
    (scale 4 (.ofNat s) e).map (signed n.negative)

/-- The integer that a numeral stands for, if it is one of 64 bits. -/
def int? (n : Numeral) : Option Int :=
  if n.fraction.isSome || n.exponent.isSome then none
  else
    match absorb maxSignificand 0 n.whole with
    | (s, 0) =>
      if !n.negative then some s
      else if s ≠ 0 && s ≤ Nat.pow 2 63 then some (-(s : Int))
      else none
    | _ => none

/-- The value of a numeral; nothing if it is too large. -/
def value? (n : Numeral) : Option Json :=
  match n.int? with
  | some i => some (.int i)
  | none => n.float?.map .float

end Numeral

end ChangeFeed.Json

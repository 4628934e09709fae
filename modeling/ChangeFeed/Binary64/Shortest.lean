import ChangeFeed.Binary64

/-!
# Shortest decimal text of a floating-point number

Among the decimals that read back as the number, the ones with the fewest digits are chosen, and of
these the nearest. A layout then decides where positional notation ends and how an exponent is
written.
-/

namespace ChangeFeed.Binary64

/-! ## Digits -/

/-- A positive decimal `0.d₁d₂… · 10 ^ point`, with digits `coefficient`. -/
structure Decimal where
  coefficient : Nat
  point : Int
  deriving DecidableEq, Repr

/-- The power of ten as a ratio. -/
def tenTo (e : Int) : Nat × Nat :=
  if 0 ≤ e then (Nat.pow 10 e.toNat, 1) else (1, Nat.pow 10 (-e).toNat)

/-- The power of two as a ratio. -/
def twoTo (e : Int) : Nat × Nat :=
  if 0 ≤ e then (Nat.pow 2 e.toNat, 1) else (1, Nat.pow 2 (-e).toNat)

/-- The ends of the interval of values that round to a finite positive number, in units of a quarter
of its last place. -/
def rounding (x : Binary64) : Nat × Nat :=
  let m := x.significand
  -- Below a power of two the numbers lie twice as dense.
  if m = Nat.pow 2 52 ∧ 1 < x.exponentBits then (4 * m - 1, 4 * m + 2) else (4 * m - 2, 4 * m + 2)

/-- The decimal `c · 10 ^ e` rounds to the number. -/
def readsBack (x : Binary64) (c : Nat) (e : Int) : Bool :=
  let (low, high) := x.rounding
  let ten := tenTo e
  let two := twoTo (x.exponent - 2)
  let value := c * ten.1 * two.2
  let unit := two.1 * ten.2
  if x.significand % 2 = 0 then low * unit ≤ value && value ≤ high * unit
  else low * unit < value && value < high * unit

/-- The distance of `c · 10 ^ e` from the number, in a unit that depends on `e` alone. -/
def distance (x : Binary64) (c : Nat) (e : Int) : Nat :=
  let ten := tenTo e
  let two := twoTo x.exponent
  ((c * ten.1 * two.2 : Nat) - (x.significand * two.1 * ten.2 : Nat) : Int).natAbs

def digitCount (n : Nat) : Nat := (Nat.toDigits 10 n).length

/-- The decimal exponent of the first digit, plus one. -/
def firstPlace (x : Binary64) : Int :=
  let (num, den) := x.ratio
  if den ≤ num then digitCount (num / den)
  else
    -- The number of zeros behind the point is found from the reciprocal.
    let inverse := digitCount (den / num)
    if num * Nat.pow 10 (inverse - 1) = den then 2 - (inverse : Int) else 1 - (inverse : Int)

/-- The best decimal with the last digit at `10 ^ e`, if one reads back. -/
def onGrid (x : Binary64) (e : Int) : Option Nat :=
  let (num, den) := x.ratio
  let ten := tenTo e
  -- Only the two grid points around the number can be the nearest.
  let below := num * ten.2 / (den * ten.1)
  match x.readsBack below e, x.readsBack (below + 1) e with
  | true, true =>
    let near := x.distance below e
    let far := x.distance (below + 1) e
    some (if near < far then below else if far < near then below + 1 else below + below % 2)
  | true, false => some below
  | false, true => some (below + 1)
  | false, false => none

/-- The first grid, from coarse to fine, with a decimal that reads back. -/
def search (x : Binary64) (first : Int) : (steps : Nat) → (e : Int) → Nat × Int
  -- The search has ended before: eighteen digits are always enough.
  | 0, e => (x.significand, e)
  | steps + 1, e =>
    match x.onGrid e with
    | some c => (c, e)
    | none => search x first steps (e - 1)

/-- The digits without zeros at the end. -/
def stripZeros : (limit : Nat) → Nat → Int → Nat × Int
  | 0, c, e => (c, e)
  | limit + 1, c, e => if c % 10 = 0 && c ≠ 0 then stripZeros limit (c / 10) (e + 1) else (c, e)

/-- The shortest decimal of a finite number other than zero, without its sign. -/
def shortest (x : Binary64) : Decimal :=
  let first := x.firstPlace
  let (c, e) := x.search first 18 (first - 1)
  -- A coarse grid may end with zeros, which are not written.
  let (c, e) := stripZeros 20 c e
  ⟨c, e + digitCount c⟩

/-! ## Text -/

/-- How a number is laid out. -/
structure Layout where
  /-- The least place of the decimal point for which the number is written without an exponent. -/
  lowest : Int
  /-- The greatest such place. -/
  highest : Int
  /-- An exponent that is not negative carries a plus sign. -/
  plusSign : Bool

def zeros (n : Nat) : String := String.ofList (List.replicate n '0')

/-- A decimal without exponent; a whole number ends with `.0`. -/
def positional (digits : List Char) (point : Int) : String :=
  if point ≤ 0 then "0." ++ zeros (-point).toNat ++ String.ofList digits
  else
    let whole := digits.take point.toNat
    let fraction := digits.drop point.toNat
    String.ofList whole ++ zeros (point.toNat - whole.length) ++ "." ++
      if fraction.isEmpty then "0" else String.ofList fraction

/-- A decimal with an exponent behind its first digit. -/
def scientific (plusSign : Bool) (digits : List Char) (point : Int) : String :=
  let e := point - 1
  let fraction := digits.drop 1
  String.ofList (digits.take 1) ++
    (if fraction.isEmpty then "" else "." ++ String.ofList fraction) ++ "e" ++
    (if 0 ≤ e && plusSign then "+" else "") ++ toString e

/-- The text of a finite number. -/
def text (layout : Layout) (x : Binary64) : String :=
  let sign := if x.isNegative then "-" else ""
  if x.isZero then sign ++ "0.0"
  else
    let d := x.shortest
    let digits := Nat.toDigits 10 d.coefficient
    sign ++
      if layout.lowest ≤ d.point && d.point ≤ layout.highest then positional digits d.point
      else scientific layout.plusSign digits d.point

end ChangeFeed.Binary64

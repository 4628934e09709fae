/-!
# Binary floating point

Numbers in the 64-bit binary format, given by their bits. Every operation is computed exactly on
natural numbers and then rounded once, to the nearest number and on a tie to the even significand.
-/

namespace ChangeFeed

/-- A 64-bit binary floating-point number. -/
structure Binary64 where
  bits : UInt64
  deriving DecidableEq, Repr

namespace Binary64

/-! ## Parts of a number -/

/-- The number lies below zero, or is the negative zero. -/
def isNegative (x : Binary64) : Bool := x.bits.toNat / Nat.pow 2 63 = 1

/-- The bits without the sign. -/
def magnitudeBits (x : Binary64) : Nat := x.bits.toNat % Nat.pow 2 63

def exponentBits (x : Binary64) : Nat := x.magnitudeBits / Nat.pow 2 52

/-- The significand of a finite number. -/
def significand (x : Binary64) : Nat :=
  if x.exponentBits = 0 then x.magnitudeBits else Nat.pow 2 52 + x.magnitudeBits % Nat.pow 2 52

/-- The power of two by which the significand of a finite number is multiplied. -/
def exponent (x : Binary64) : Int := (max x.exponentBits 1 : Nat) - 1075

/-- The number is neither infinite nor undefined. -/
def isFinite (x : Binary64) : Bool := x.exponentBits < 2047

/-- The number is zero, of either sign. -/
def isZero (x : Binary64) : Bool := x.magnitudeBits = 0

def neg (x : Binary64) : Binary64 := ⟨UInt64.ofNat ((x.bits.toNat + Nat.pow 2 63) % UInt64.size)⟩

def zero : Binary64 := ⟨0⟩

/-! ## Rounding -/

/-- The greatest power of two, as an exponent, that is at most `num / den`. -/
def floorLog (num den : Nat) : Int :=
  -- The difference of the logarithms is right, or one too great.
  let guess : Int := (num.log2 : Int) - (den.log2 : Int)
  let reached :=
    if 0 ≤ guess then den * Nat.pow 2 guess.toNat ≤ num else den ≤ num * Nat.pow 2 (-guess).toNat
  if reached then guess else guess - 1

/-- The quotient rounded to the nearest whole number, a tie to the even one. -/
def roundDiv (num den : Nat) : Nat :=
  let q := num / den
  let r := num % den
  if 2 * r < den then q
  else if den < 2 * r then q + 1
  else q + q % 2

/-- The positive number nearest to `num / den`, infinite when that is too large. -/
def ofRatio (num den : Nat) : Binary64 :=
  if num = 0 then zero
  else
    -- The last place of the result; subnormal numbers share the finest one.
    let e := max (floorLog num den - 52) (-1074)
    let q :=
      if 0 ≤ e then roundDiv num (den * Nat.pow 2 e.toNat)
      else roundDiv (num * Nat.pow 2 (-e).toNat) den
    -- A significand of 53 bits carries into the exponent by itself.
    ⟨UInt64.ofNat (min ((e + 1074).toNat * Nat.pow 2 52 + q) (2047 * Nat.pow 2 52))⟩

/-- The number nearest to a natural number. -/
def ofNat (n : Nat) : Binary64 := ofRatio n 1

/-- The number nearest to an integer. -/
def ofInt (n : Int) : Binary64 := if n < 0 then (ofNat n.natAbs).neg else ofNat n.natAbs

/-! ## Arithmetic on finite numbers that are not negative -/

/-- The exact value as a ratio. -/
def ratio (x : Binary64) : Nat × Nat :=
  if 0 ≤ x.exponent then (x.significand * Nat.pow 2 x.exponent.toNat, 1)
  else (x.significand, Nat.pow 2 (-x.exponent).toNat)

/-- The rounded product. -/
def mul (x y : Binary64) : Binary64 :=
  ofRatio (x.ratio.1 * y.ratio.1) (x.ratio.2 * y.ratio.2)

/-- The rounded quotient by a number that is not zero. -/
def div (x y : Binary64) : Binary64 :=
  ofRatio (x.ratio.1 * y.ratio.2) (x.ratio.2 * y.ratio.1)

/-- The number nearest to a power of ten. -/
def pow10 (n : Nat) : Binary64 := ofNat (Nat.pow 10 n)

end Binary64

end ChangeFeed

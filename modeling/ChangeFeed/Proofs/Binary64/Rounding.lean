import ChangeFeed.Binary64.Shortest
import Mathlib.Algebra.Order.Field.Power
import Mathlib.Data.Rat.Cast.Order
import Mathlib.Tactic.FieldSimp
import Mathlib.Tactic.GCongr
import Mathlib.Tactic.Linarith
import Mathlib.Tactic.Ring

/-!
# Binary floating point: What rounds to a number

The values that round to a finite number make up an interval around it, whose ends belong to it if
the significand is even. The intervals of two numbers meet in an end at most; and then one of the
significands is odd.

## Main results

* `readsBack_iff`: a decimal reads back exactly if its value rounds to the number.
* `magnitudeBits_eq_of_roundsTo`: no value rounds to two numbers.
-/

namespace ChangeFeed.Binary64

variable {x y : Binary64}

/-! ## Powers as ratios -/

/-- Both parts of a power of ten are positive. -/
theorem tenTo_pos (e : Int) : 0 < (tenTo e).1 ∧ 0 < (tenTo e).2 := by
  unfold tenTo
  split
  next => exact ⟨Nat.pow_pos (by decide), Nat.one_pos⟩
  next => exact ⟨Nat.one_pos, Nat.pow_pos (by decide)⟩

/-- So are those of a power of two. -/
theorem twoTo_pos (e : Int) : 0 < (twoTo e).1 ∧ 0 < (twoTo e).2 := by
  unfold twoTo
  split
  next => exact ⟨Nat.pow_pos (by decide), Nat.one_pos⟩
  next => exact ⟨Nat.one_pos, Nat.pow_pos (by decide)⟩

/-- The two parts of a power of ten are a fraction of its value. -/
theorem tenTo_ratio (e : Int) : ((tenTo e).1 : ℚ) / (tenTo e).2 = 10 ^ e := by
  unfold tenTo
  split
  next h =>
    obtain ⟨n, rfl⟩ := Int.eq_ofNat_of_zero_le h
    simp
  next h =>
    obtain ⟨n, hn⟩ := Int.eq_ofNat_of_zero_le (show 0 ≤ -e by omega)
    obtain rfl : e = -n := by omega
    simp

/-- So are the two parts of a power of two. -/
theorem twoTo_ratio (e : Int) : ((twoTo e).1 : ℚ) / (twoTo e).2 = 2 ^ e := by
  unfold twoTo
  split
  next h =>
    obtain ⟨n, rfl⟩ := Int.eq_ofNat_of_zero_le h
    simp
  next h =>
    obtain ⟨n, hn⟩ := Int.eq_ofNat_of_zero_le (show 0 ≤ -e by omega)
    obtain rfl : e = -n := by omega
    simp

/-! ## The interval of a number -/

/-- The lower end of the interval of values that round to a number. -/
def lowEnd (x : Binary64) : ℚ := x.rounding.1 * 2 ^ (x.exponent - 2)

/-- The upper end of the interval of values that round to a number. -/
def highEnd (x : Binary64) : ℚ := x.rounding.2 * 2 ^ (x.exponent - 2)

/-- A value rounds to the number. -/
def RoundsTo (x : Binary64) (v : ℚ) : Prop :=
  if x.significand % 2 = 0 then x.lowEnd ≤ v ∧ v ≤ x.highEnd else x.lowEnd < v ∧ v < x.highEnd

/-- What lies between the ends rounds to the number, whatever its significand is. -/
theorem roundsTo_of_lt {v : ℚ} (hlow : x.lowEnd < v) (hhigh : v < x.highEnd) : x.RoundsTo v := by
  unfold RoundsTo
  split
  next => exact ⟨hlow.le, hhigh.le⟩
  next => exact ⟨hlow, hhigh⟩

/-- What rounds to the number does not lie below its interval. -/
theorem lowEnd_le_of_roundsTo {v : ℚ} (h : x.RoundsTo v) : x.lowEnd ≤ v := by
  unfold RoundsTo at h
  split at h
  next => exact h.1
  next => exact h.1.le

/-- Nor does it lie above it. -/
theorem le_highEnd_of_roundsTo {v : ℚ} (h : x.RoundsTo v) : v ≤ x.highEnd := by
  unfold RoundsTo at h
  split at h
  next => exact h.2
  next => exact h.2.le

/-- A decimal reads back exactly if its value rounds to the number. -/
theorem readsBack_iff (x : Binary64) (c : Nat) (e : Int) :
    x.readsBack c e = true ↔ x.RoundsTo (c * 10 ^ e) := by
  have hten : (0 : ℚ) < (tenTo e).2 := by exact_mod_cast (tenTo_pos e).2
  have htwo : (0 : ℚ) < (twoTo (x.exponent - 2)).2 := by
    exact_mod_cast (twoTo_pos (x.exponent - 2)).2
  have hvalue : (c : ℚ) * 10 ^ e = c * (tenTo e).1 / (tenTo e).2 := by
    rw [← tenTo_ratio, mul_div_assoc]
  have hend (n : Nat) : (n : ℚ) * 2 ^ (x.exponent - 2) =
      n * (twoTo (x.exponent - 2)).1 / (twoTo (x.exponent - 2)).2 := by
    rw [← twoTo_ratio, mul_div_assoc]
  -- Both sides are multiplied by the two denominators.
  have hle (n : Nat) : (n : ℚ) * 2 ^ (x.exponent - 2) ≤ c * 10 ^ e ↔
      n * ((twoTo (x.exponent - 2)).1 * (tenTo e).2) ≤
        c * (tenTo e).1 * (twoTo (x.exponent - 2)).2 := by
    rw [hend, hvalue, div_le_div_iff₀ htwo hten, ← mul_assoc]
    exact_mod_cast Iff.rfl
  have hge (n : Nat) : (c : ℚ) * 10 ^ e ≤ n * 2 ^ (x.exponent - 2) ↔
      c * (tenTo e).1 * (twoTo (x.exponent - 2)).2 ≤
        n * ((twoTo (x.exponent - 2)).1 * (tenTo e).2) := by
    rw [hend, hvalue, div_le_div_iff₀ hten htwo, ← mul_assoc]
    exact_mod_cast Iff.rfl
  unfold readsBack RoundsTo lowEnd highEnd
  dsimp only
  split
  next => rw [hle, hge, Bool.and_eq_true, decide_eq_true_iff, decide_eq_true_iff]
  next =>
    rw [lt_iff_lt_of_le_iff_le (hge _), lt_iff_lt_of_le_iff_le (hle _), Bool.and_eq_true,
      decide_eq_true_iff, decide_eq_true_iff]

/-! ## Significands -/

theorem pow_two_52 : Nat.pow 2 52 = 4503599627370496 := by decide

/-- Every step of the bits of the exponent stands for a whole turn of the significand. -/
theorem significand_add (x : Binary64) :
    x.significand + (max x.exponentBits 1 - 1) * 4503599627370496 = x.magnitudeBits := by
  unfold significand exponentBits
  rw [pow_two_52]
  split
  next h => simp [h]
  next h => omega

/-- A significand has at most 53 bits. -/
theorem significand_lt (x : Binary64) : x.significand < 9007199254740992 := by
  unfold significand exponentBits
  rw [pow_two_52]
  split
  next h => omega
  next h => omega

/-- The significand of a normal number has the hidden bit. -/
theorem le_significand (h : x.exponentBits ≠ 0) : 4503599627370496 ≤ x.significand := by
  unfold significand
  rw [pow_two_52, if_neg h]
  omega

theorem exponent_eq (x : Binary64) : x.exponent = (max x.exponentBits 1 : Nat) - 1075 := rfl

/-- The upper end lies half a place above the number. -/
theorem rounding_snd (x : Binary64) : x.rounding.2 = 4 * x.significand + 2 := by
  unfold rounding
  dsimp only
  split
  next => rfl
  next => rfl

/-- The lower end lies half a place below, or a quarter where the places become finer. -/
theorem rounding_fst (x : Binary64) :
    x.rounding.1 = 4 * x.significand - 1 ∧ x.significand = 4503599627370496 ∨
      x.rounding.1 = 4 * x.significand - 2 ∧
        (x.significand = 4503599627370496 → x.exponentBits ≤ 1) := by
  unfold rounding
  rw [pow_two_52]
  dsimp only
  split
  next h => exact .inl ⟨rfl, h.1⟩
  next h => exact .inr ⟨rfl, fun hm => not_lt.1 fun he => h ⟨hm, he⟩⟩

/-! ## No value rounds to two numbers -/

/-- The ends of two intervals, in quarters of the last place of the smaller number. -/
theorem rounding_snd_le (h : x.magnitudeBits < y.magnitudeBits) {d : Nat}
    (hd : max y.exponentBits 1 = max x.exponentBits 1 + d) :
    x.rounding.2 < y.rounding.1 * 2 ^ d ∨
      x.rounding.2 = y.rounding.1 * 2 ^ d ∧ x.significand % 2 ≠ y.significand % 2 := by
  have hx := x.significand_add
  have hy := y.significand_add
  have hxlt := x.significand_lt
  rw [rounding_snd]
  cases d with
  | zero =>
    -- Both numbers have the same last place, and their significands differ.
    rw [pow_zero, mul_one]
    rcases y.rounding_fst with ⟨hfst, -⟩ | ⟨hfst, -⟩ <;> rw [hfst] <;> omega
  | succ d =>
    -- The greater number has a coarser last place, and a significand that is normal.
    have hexponents : 2 ≤ y.exponentBits := by omega
    have hylow := y.le_significand (by omega)
    have hgrow : y.rounding.1 * 2 ≤ y.rounding.1 * 2 ^ (d + 1) := by
      rw [pow_succ']
      exact Nat.mul_le_mul_left _ (Nat.le_mul_of_pos_right 2 (Nat.pow_pos (by decide)))
    rcases y.rounding_fst with ⟨hfst, hpower⟩ | ⟨hfst, hpower⟩
    · omega
    · -- Only below a power of two the place gets finer.
      have hne : y.significand ≠ 4503599627370496 := fun hm => by have := hpower hm; omega
      omega

/-- The interval of a greater number lies above, but for an end that only one of them holds. -/
theorem highEnd_le_lowEnd (h : x.magnitudeBits < y.magnitudeBits) :
    x.highEnd < y.lowEnd ∨
      x.highEnd = y.lowEnd ∧ x.significand % 2 ≠ y.significand % 2 := by
  have hle : max x.exponentBits 1 ≤ max y.exponentBits 1 :=
    max_le_max_right 1 (Nat.div_le_div_right h.le)
  obtain ⟨d, hd⟩ := Nat.exists_eq_add_of_le hle
  -- The ends are compared in the unit of the smaller number.
  have hlow : y.lowEnd = (y.rounding.1 * 2 ^ d : Nat) * 2 ^ (x.exponent - 2) := by
    have hexponent : y.exponent - 2 = (x.exponent - 2) + d := by
      rw [exponent_eq, exponent_eq, hd]
      push_cast
      ring
    rw [lowEnd, hexponent, zpow_add₀ (by norm_num)]
    push_cast
    rw [zpow_natCast]
    ring
  have hunit : (0 : ℚ) < 2 ^ (x.exponent - 2) := by positivity
  rw [highEnd, hlow]
  rcases rounding_snd_le h hd with hlt | ⟨heq, hparity⟩
  · exact .inl (mul_lt_mul_of_pos_right (by exact_mod_cast hlt) hunit)
  · exact .inr ⟨by rw [heq], hparity⟩

theorem magnitudeBits_le_of_roundsTo {v : ℚ} (hx : x.RoundsTo v) (hy : y.RoundsTo v) :
    y.magnitudeBits ≤ x.magnitudeBits := by
  -- Otherwise the interval of the one would lie behind that of the other.
  by_contra hlt
  have hhigh := le_highEnd_of_roundsTo hx
  have hlow := lowEnd_le_of_roundsTo hy
  rcases highEnd_le_lowEnd (not_le.1 hlt) with hgap | ⟨hmeet, hparity⟩
  · linarith
  · -- The common end is the value, so both significands are even.
    have hxeven : x.significand % 2 = 0 := by
      by_contra hodd
      rw [RoundsTo, if_neg hodd] at hx
      linarith [hx.2]
    have hyeven : y.significand % 2 = 0 := by
      by_contra hodd
      rw [RoundsTo, if_neg hodd] at hy
      linarith [hy.1]
    exact hparity (hxeven.trans hyeven.symm)

/-- **Uniqueness**: no value rounds to two numbers, their signs apart. -/
theorem magnitudeBits_eq_of_roundsTo {v : ℚ} (hx : x.RoundsTo v) (hy : y.RoundsTo v) :
    x.magnitudeBits = y.magnitudeBits :=
  le_antisymm (magnitudeBits_le_of_roundsTo hy hx) (magnitudeBits_le_of_roundsTo hx hy)

/-- A number is its sign and its other bits. -/
theorem eq_of_magnitudeBits (hsign : x.isNegative = y.isNegative)
    (hbits : x.magnitudeBits = y.magnitudeBits) : x = y := by
  have hpow : Nat.pow 2 63 = 9223372036854775808 := by decide
  have hx := x.bits.toNat_lt
  have hy := y.bits.toNat_lt
  -- The sign is the highest bit, and the magnitude is all the others.
  have hdiv : x.bits.toNat / 9223372036854775808 = 1 ↔ y.bits.toNat / 9223372036854775808 = 1 := by
    rw [isNegative, isNegative, hpow] at hsign
    exact decide_eq_decide.1 hsign
  rw [magnitudeBits, magnitudeBits, hpow] at hbits
  have htoNat : x.bits.toNat = y.bits.toNat := by omega
  cases x
  cases y
  exact congrArg Binary64.mk (UInt64.toNat_inj.1 htoNat)

end ChangeFeed.Binary64

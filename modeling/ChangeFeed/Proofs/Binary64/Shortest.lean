import ChangeFeed.Proofs.Binary64.Rounding

/-!
# Binary floating point: The shortest decimal

The decimal that a number is written as rounds to that number. The search for it ends with a grid
that is finer than a quarter of the last place, where the point just below the number is close
enough; so it always finds a decimal.

## Main results

* `roundsTo_shortest`: the shortest decimal of a number rounds to the number.
* `eq_of_decimalValue`: a number is its sign and its decimal.
-/

namespace ChangeFeed.Binary64

variable {x : Binary64}

/-! ## The value of a number -/

/-- The value of a finite number, but for its sign. -/
def value (x : Binary64) : ℚ := x.significand * 2 ^ x.exponent

/-- The denominator of a number is positive. -/
theorem ratio_pos (x : Binary64) : 0 < x.ratio.2 := by
  unfold ratio
  split
  next => exact Nat.one_pos
  next => exact Nat.pow_pos (by decide)

/-- The fraction has the value of the number. -/
theorem ratio_value (x : Binary64) : (x.ratio.1 : ℚ) / x.ratio.2 = x.value := by
  have htwo : (x.ratio.1 : ℚ) / x.ratio.2 =
      x.significand * ((twoTo x.exponent).1 / (twoTo x.exponent).2) := by
    unfold ratio twoTo
    split
    next => simp
    next => simp [div_eq_mul_inv]
  rw [htwo, twoTo_ratio, value]

/-- A number that is not zero has a significand. -/
theorem significand_pos (h : x.isZero = false) : 0 < x.significand := by
  have hbits : x.magnitudeBits ≠ 0 := by simpa [isZero] using h
  by_contra hzero
  -- A subnormal number is its significand; a normal one has the hidden bit.
  by_cases hexponent : x.exponentBits = 0
  · have hadd := x.significand_add
    simp only [hexponent] at hadd
    omega
  · have hlow := x.le_significand hexponent
    omega

/-- So its fraction is positive. -/
theorem ratio_fst_pos (h : x.isZero = false) : 0 < x.ratio.1 := by
  unfold ratio
  split
  next => exact Nat.mul_pos (significand_pos h) (Nat.pow_pos (by decide))
  next => exact significand_pos h

/-- A quarter of the last place. -/
theorem value_eq_quarters (x : Binary64) :
    x.value = (4 * x.significand : ℚ) * 2 ^ (x.exponent - 2) := by
  rw [value, zpow_sub₀ (by norm_num)]
  norm_num
  ring

/-- A number lies below its upper end. -/
theorem value_lt_highEnd (x : Binary64) : x.value < x.highEnd := by
  rw [value_eq_quarters, highEnd, rounding_snd]
  push_cast
  gcongr
  linarith

/-- The lower end lies a quarter of the last place or more below the number. -/
theorem lowEnd_add_le_value (h : x.isZero = false) :
    x.lowEnd + 2 ^ (x.exponent - 2) ≤ x.value := by
  have hpos := significand_pos h
  have hfst : x.rounding.1 + 1 ≤ 4 * x.significand := by
    rcases x.rounding_fst with ⟨hfst, -⟩ | ⟨hfst, -⟩ <;> omega
  have hcast : (x.rounding.1 : ℚ) + 1 ≤ 4 * x.significand := by exact_mod_cast hfst
  rw [value_eq_quarters, lowEnd]
  calc (x.rounding.1 : ℚ) * 2 ^ (x.exponent - 2) + 2 ^ (x.exponent - 2)
      = (x.rounding.1 + 1) * 2 ^ (x.exponent - 2) := by ring
    _ ≤ 4 * x.significand * 2 ^ (x.exponent - 2) := by gcongr

/-- Nothing below zero rounds to a number that is not zero. -/
theorem lowEnd_pos (h : x.isZero = false) : 0 < x.lowEnd := by
  have hpos := significand_pos h
  have hfst : 0 < x.rounding.1 := by
    rcases x.rounding_fst with ⟨hfst, -⟩ | ⟨hfst, -⟩ <;> omega
  rw [lowEnd]
  have hcast : (0 : ℚ) < x.rounding.1 := by exact_mod_cast hfst
  positivity

/-! ## The first digit -/

theorem digitCount_pos (n : Nat) : 0 < digitCount n := Nat.length_toDigits_pos

theorem lt_pow_digitCount (n : Nat) : n < 10 ^ digitCount n :=
  (Nat.length_toDigits_le_iff (by decide) (digitCount_pos n)).1 (Nat.le_refl _)

/-- A number is at least the power of its first digit. -/
theorem pow_digitCount_le {n : Nat} (h : 0 < n) : 10 ^ (digitCount n - 1) ≤ n := by
  by_cases hone : digitCount n = 1
  · rw [hone]
    exact h
  -- With one digit less the number would be below the power.
  · have hpos := digitCount_pos n
    by_contra hlt
    have hle := (Nat.length_toDigits_le_iff (by decide) (by omega)).2 (not_le.1 hlt)
    change digitCount n ≤ digitCount n - 1 at hle
    omega

section FirstDigit

variable {num den : Nat}

/-- A ratio of at least one begins at the first digit of its whole part. -/
theorem pow_le_ratio_of_le (hden : 0 < den) (h : den ≤ num) :
    (10 : ℚ) ^ ((digitCount (num / den) : ℤ) - 1) ≤ num / den := by
  have hdenQ : (0 : ℚ) < den := by exact_mod_cast hden
  have hpos := digitCount_pos (num / den)
  have hpow := pow_digitCount_le (Nat.div_pos h hden)
  have hmul : 10 ^ (digitCount (num / den) - 1) * den ≤ num :=
    (Nat.mul_le_mul_right den hpow).trans (Nat.div_mul_le_self num den)
  have hexponent : (digitCount (num / den) : ℤ) - 1 = (digitCount (num / den) - 1 : Nat) := by
    omega
  rw [le_div_iff₀ hdenQ, hexponent, zpow_natCast]
  exact_mod_cast hmul

/-- A ratio below one begins as many places behind the point as its inverse has digits. -/
theorem pow_le_ratio_of_mul_le (hden : 0 < den) {n : Nat} (h : den ≤ num * 10 ^ n) :
    (10 : ℚ) ^ (-(n : ℤ)) ≤ num / den := by
  have hdenQ : (0 : ℚ) < den := by exact_mod_cast hden
  rw [zpow_neg, zpow_natCast, le_div_iff₀ hdenQ, inv_mul_le_iff₀ (by positivity), mul_comm]
  exact_mod_cast h

end FirstDigit

/-- The first digit of a number is not zero. -/
theorem pow_firstPlace_le (h : x.isZero = false) : (10 : ℚ) ^ (x.firstPlace - 1) ≤ x.value := by
  have hnum := ratio_fst_pos h
  have hden := x.ratio_pos
  rw [← ratio_value]
  unfold firstPlace
  dsimp only
  generalize x.ratio.1 = num at *
  generalize x.ratio.2 = den at *
  split
  next hle => exact pow_le_ratio_of_le hden hle
  next hlt =>
    have hpos := digitCount_pos (den / num)
    split
    next heq =>
      -- The inverse is a power of ten, so the first digit stands one place further left.
      have hexponent :
          (2 : ℤ) - digitCount (den / num) - 1 = -(digitCount (den / num) - 1 : Nat) := by
        omega
      rw [hexponent]
      exact pow_le_ratio_of_mul_le hden heq.ge
    next =>
      have hpow : den < num * 10 ^ digitCount (den / num) := by
        rw [mul_comm]
        exact (Nat.div_lt_iff_lt_mul hnum).1 (lt_pow_digitCount _)
      have hexponent : (1 : ℤ) - digitCount (den / num) - 1 = -(digitCount (den / num) : Nat) := by
        omega
      rw [hexponent]
      exact pow_le_ratio_of_mul_le hden hpow.le

/-- Seventeen places behind the first digit, the grid is finer than a quarter of the last place. -/
theorem pow_grid_le (h : x.isZero = false) :
    (10 : ℚ) ^ (x.firstPlace - 1 - 17) ≤ 2 ^ (x.exponent - 2) := by
  have hfirst := pow_firstPlace_le h
  have hlast : (x.significand : ℚ) < 9007199254740992 := by exact_mod_cast x.significand_lt
  have hunit : (0 : ℚ) < 2 ^ (x.exponent - 2) := by positivity
  rw [value_eq_quarters] at hfirst
  rw [zpow_sub₀ (by norm_num), div_le_iff₀ (by positivity)]
  -- A significand of 53 bits has less than 17 digits, with two bits to spare.
  calc (10 : ℚ) ^ (x.firstPlace - 1)
      ≤ 4 * x.significand * 2 ^ (x.exponent - 2) := hfirst
    _ ≤ 10 ^ (17 : ℤ) * 2 ^ (x.exponent - 2) := by
      gcongr
      norm_num
      linarith
    _ = 2 ^ (x.exponent - 2) * 10 ^ (17 : ℤ) := mul_comm _ _

/-! ## The search -/

/-- The grid point below a number. -/
theorem gridPoint_bounds (x : Binary64) (e : Int) :
    let below := x.ratio.1 * (tenTo e).2 / (x.ratio.2 * (tenTo e).1)
    (below : ℚ) * 10 ^ e ≤ x.value ∧ x.value < (below + 1) * 10 ^ e := by
  intro below
  have hden : 0 < x.ratio.2 * (tenTo e).1 := Nat.mul_pos x.ratio_pos (tenTo_pos e).1
  have hdenQ : (0 : ℚ) < x.ratio.2 := by exact_mod_cast x.ratio_pos
  have hten : (0 : ℚ) < (tenTo e).2 := by exact_mod_cast (tenTo_pos e).2
  have hle : below * (x.ratio.2 * (tenTo e).1) ≤ x.ratio.1 * (tenTo e).2 := Nat.div_mul_le_self _ _
  have hlt : x.ratio.1 * (tenTo e).2 < (below + 1) * (x.ratio.2 * (tenTo e).1) :=
    Nat.lt_mul_of_div_lt (Nat.lt_succ_self below) hden
  rw [← ratio_value, ← tenTo_ratio, ← mul_div_assoc, ← mul_div_assoc, div_le_div_iff₀ hten hdenQ,
    div_lt_div_iff₀ hdenQ hten]
  -- Both bounds are those of a division with remainder.
  constructor
  · rw [mul_assoc, mul_comm ((tenTo e).1 : ℚ)]
    exact_mod_cast hle
  · rw [mul_assoc, mul_comm ((tenTo e).1 : ℚ)]
    exact_mod_cast hlt

/-- What is found on a grid reads back. -/
theorem readsBack_of_onGrid {e : Int} {c : Nat} (h : x.onGrid e = some c) :
    x.readsBack c e = true := by
  unfold onGrid at h
  dsimp only at h
  split at h
  next hbelow habove =>
    obtain rfl := Option.some.inj h
    split
    next => exact hbelow
    next =>
      split
      next => exact habove
      next =>
        -- At equal distance the even neighbour is taken, and both read back.
        generalize x.ratio.1 * (tenTo e).2 / (x.ratio.2 * (tenTo e).1) = below at *
        rcases Nat.mod_two_eq_zero_or_one below with hmod | hmod
        · rwa [hmod]
        · rwa [hmod]
  next hbelow _ => exact Option.some.inj h ▸ hbelow
  next _ habove => exact Option.some.inj h ▸ habove
  next => cases h

/-- On a grid that is fine enough, a decimal is found. -/
theorem isSome_onGrid (h : x.isZero = false) {e : Int}
    (hfine : (10 : ℚ) ^ e ≤ 2 ^ (x.exponent - 2)) : (x.onGrid e).isSome = true := by
  obtain ⟨hle, hlt⟩ := x.gridPoint_bounds e
  have hlow := lowEnd_add_le_value h
  have hhigh := x.value_lt_highEnd
  have hbelow : x.readsBack (x.ratio.1 * (tenTo e).2 / (x.ratio.2 * (tenTo e).1)) e = true := by
    rw [readsBack_iff]
    -- The grid point below lies less than a quarter of the last place below the number.
    exact roundsTo_of_lt (by linarith) (by linarith)
  unfold onGrid
  dsimp only
  rw [hbelow]
  split
  next => rfl
  next => rfl
  next heq _ => cases heq
  next heq _ => cases heq

/-- The search finds a decimal if there is one on the finest grid or before it. -/
theorem readsBack_search {steps k : Nat} (first e : Int) (hk : k < steps)
    (h : (x.onGrid (e - k)).isSome = true) :
    x.readsBack (x.search first steps e).1 (x.search first steps e).2 = true := by
  induction steps generalizing k e with
  | zero => exact absurd hk (Nat.not_lt_zero k)
  | succ steps ih =>
    unfold search
    split
    next c hc => exact readsBack_of_onGrid hc
    next hnone =>
      cases k with
      | zero => simp [hnone] at h
      | succ k =>
        -- The search goes on with the next finer grid.
        refine ih (e - 1) (Nat.lt_of_succ_lt_succ hk) ?_
        have hplace : e - 1 - (k : Int) = e - (k + 1 : Nat) := by omega
        rwa [hplace]

/-! ## The decimal -/

/-- The value does not change when zeros are stripped off at its end. -/
theorem stripZeros_value (limit c : Nat) (e : Int) :
    ((stripZeros limit c e).1 : ℚ) * 10 ^ (stripZeros limit c e).2 = c * 10 ^ e := by
  induction limit generalizing c e with
  | zero => rfl
  | succ limit ih =>
    unfold stripZeros
    split
    next h =>
      -- A zero at the end moves from the digits to the exponent.
      have hten : c % 10 = 0 := by simp_all
      have hc : (c : ℚ) = (c / 10 : Nat) * 10 := by
        exact_mod_cast (Nat.div_mul_cancel (Nat.dvd_of_mod_eq_zero hten)).symm
      rw [ih, hc, zpow_add₀ (by norm_num)]
      norm_num
      ring
    next => rfl

/-- The value of a decimal. -/
def Decimal.value (d : Decimal) : ℚ := d.coefficient * 10 ^ (d.point - digitCount d.coefficient)

/-- **The shortest decimal**: the decimal that a number is written as rounds to the number. -/
theorem roundsTo_shortest (h : x.isZero = false) : x.RoundsTo x.shortest.value := by
  have hgrid : (x.onGrid (x.firstPlace - 1 - (17 : Nat))).isSome = true :=
    isSome_onGrid h (pow_grid_le h)
  -- The finest of the grids is fine enough, so the search ends with a decimal.
  have hfound := readsBack_search x.firstPlace (x.firstPlace - 1) (by decide : 17 < 18) hgrid
  rw [readsBack_iff, ← stripZeros_value 20] at hfound
  have hvalue : x.shortest.value =
      (stripZeros 20 (x.search x.firstPlace 18 (x.firstPlace - 1)).1
        (x.search x.firstPlace 18 (x.firstPlace - 1)).2).1 *
        10 ^ (stripZeros 20 (x.search x.firstPlace 18 (x.firstPlace - 1)).1
          (x.search x.firstPlace 18 (x.firstPlace - 1)).2).2 := by
    simp only [Decimal.value, shortest, add_sub_cancel_right]
  rwa [hvalue]

theorem value_shortest_pos (h : x.isZero = false) : 0 < x.shortest.value :=
  (lowEnd_pos h).trans_le (lowEnd_le_of_roundsTo (roundsTo_shortest h))

/-- The coefficient of the shortest decimal is positive. -/
theorem coefficient_shortest_pos (h : x.isZero = false) : 0 < x.shortest.coefficient := by
  by_contra hzero
  have hvalue := value_shortest_pos h
  simp [Decimal.value, Nat.eq_zero_of_not_pos hzero] at hvalue

/-- The decimal that a number is written as, but for its sign. -/
def decimalValue (x : Binary64) : ℚ := if x.isZero then 0 else x.shortest.value

theorem decimalValue_of_isZero (h : x.isZero = true) : x.decimalValue = 0 := by
  rw [decimalValue, if_pos h]

theorem decimalValue_of_not_isZero (h : x.isZero = false) : x.decimalValue = x.shortest.value := by
  simp only [decimalValue, h, Bool.false_eq_true, if_false]

/-- **Different numbers, different decimals**: a number is its sign and its decimal. -/
theorem eq_of_decimalValue {y : Binary64} (hsign : x.isNegative = y.isNegative)
    (hvalue : x.decimalValue = y.decimalValue) : x = y := by
  refine eq_of_magnitudeBits hsign ?_
  cases hx : x.isZero with
  | true =>
    cases hy : y.isZero with
    | true => exact (of_decide_eq_true hx).trans (of_decide_eq_true hy).symm
    | false =>
      -- Zero is the only number with the decimal zero.
      rw [decimalValue_of_isZero hx, decimalValue_of_not_isZero hy] at hvalue
      exact absurd hvalue (value_shortest_pos hy).ne
  | false =>
    have hxrounds := roundsTo_shortest hx
    rw [decimalValue_of_not_isZero hx] at hvalue
    cases hy : y.isZero with
    | true =>
      rw [decimalValue_of_isZero hy] at hvalue
      exact absurd hvalue (value_shortest_pos hx).ne'
    | false =>
      rw [decimalValue_of_not_isZero hy] at hvalue
      rw [hvalue] at hxrounds
      exact magnitudeBits_eq_of_roundsTo hxrounds (roundsTo_shortest hy)

end ChangeFeed.Binary64

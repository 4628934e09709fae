import ChangeFeed.Proofs.Binary64.Shortest
import ChangeFeed.Proofs.Json.Reading

/-!
# JSON: Floating-point numbers

The value that is read for a floating-point number is rounded on the way, so it need not be the
number that was written. But the numeral in front of the rounding tells the number: its exact value
is the shortest decimal, and unlike an integer it has a fraction or an exponent.

## Main results

* `readsNumber_float`, `readsNumber_int`: which numerals the texts of numbers are.
-/

namespace ChangeFeed.Json

/-! ## The value of a numeral -/

namespace Numeral

/-- The number that digits make up. -/
def ofDigits (ds : List Nat) : Nat := ds.foldl (fun n d => n * 10 + d) 0

/-- The exponent that is written behind a numeral. -/
def exponentValue (n : Numeral) : Int :=
  match n.exponent with
  | some (negative, ds) => if negative then -(ofDigits ds : Int) else ofDigits ds
  | none => 0

/-- The exact value of a numeral, but for its sign. -/
def magnitude (n : Numeral) : ℚ :=
  ofDigits (n.whole ++ n.fraction.getD []) * 10 ^ (n.exponentValue - (n.fraction.getD []).length)

/-- The numeral is written like an integer. -/
def isWhole (n : Numeral) : Bool := n.fraction.isNone && n.exponent.isNone

/-- Digits in front are worth as many places more as digits follow. -/
theorem ofDigits_append (ds es : List Nat) :
    ofDigits (ds ++ es) = ofDigits ds * 10 ^ es.length + ofDigits es := by
  -- The fold starts with any number, so that the induction can go on from the digits already read.
  have hfold (n : Nat) (es : List Nat) :
      es.foldl (fun n d => n * 10 + d) n = n * 10 ^ es.length + ofDigits es := by
    induction es generalizing n with
    | nil => simp [ofDigits]
    | cons e es ih =>
      rw [ofDigits, List.foldl_cons, List.foldl_cons, ih, ih (0 * 10 + e), List.length_cons]
      ring
  rw [ofDigits, List.foldl_append, hfold]
  rfl

/-- Zeros are worth nothing. -/
theorem ofDigits_zeros (n : Nat) : ofDigits (List.replicate n 0) = 0 := by
  induction n with
  | zero => rfl
  | succ n ih => rw [List.replicate_succ', ofDigits_append, ih]; rfl

theorem ofDigits_toDigits (n : Nat) : ofDigits ((Nat.toDigits 10 n).map digitValue) = n :=
  foldl_toDigits n

end Numeral

/-! ## Reading numbers with their sign -/

/-- The numeral ahead, with its sign. -/
def signedNumeral (c : Cursor) : Except (Fault × Fault) (Numeral × Nat × Cursor) :=
  match c.rest with
  | .char '-' :: _ => numeral true c.skip
  | _ => numeral false c

/-- A text without sign is read as the numeral, whatever sign stood in front of it. -/
structure ReadsUnsigned (text : List Symbol) (n : Numeral) : Prop where
  opens : ∃ d more, text = .char d :: more ∧ d.isDigit = true
  reads : ∀ (negative : Bool) (place : Nat) (rest : List Symbol), EndsNumber rest →
    ∃ first behind, numeral negative ⟨place, text ++ rest⟩ =
      .ok ({ n with negative }, first, ⟨behind, rest⟩)

/-- A text is read as the numeral. -/
def ReadsNumber (text : List Symbol) (n : Numeral) : Prop :=
  ∀ (place : Nat) (rest : List Symbol), EndsNumber rest →
    ∃ first behind, signedNumeral ⟨place, text ++ rest⟩ = .ok (n, first, ⟨behind, rest⟩)

variable {text : List Symbol} {n : Numeral}

theorem ReadsUnsigned.negative (h : ReadsUnsigned text n) :
    ReadsNumber (.char '-' :: text) { n with negative := true } :=
  fun place rest hrest => h.reads true (place + 1) rest hrest

/-- A number without a sign is read as what is not negative. -/
theorem ReadsUnsigned.positive (h : ReadsUnsigned text n) :
    ReadsNumber text { n with negative := false } := by
  intro place rest hrest
  obtain ⟨d, more, htext, hd⟩ := h.opens
  -- The text begins with a digit, so no sign is taken off.
  have hsigned : signedNumeral ⟨place, text ++ rest⟩ = numeral false ⟨place, text ++ rest⟩ := by
    unfold signedNumeral
    split
    next heq =>
      simp only [htext, List.cons_append, List.cons.injEq, Symbol.char.injEq] at heq
      rw [heq.1] at hd
      exact absurd hd (by decide)
    next => rfl
  rw [hsigned]
  exact h.reads false place rest hrest

/-- A whole part begins with a digit. -/
theorem IsWhole.opens {cs : List Char} (h : IsWhole cs) (more : List Symbol) :
    ∃ d rest, symbolsOfChars cs ++ more = .char d :: rest ∧ d.isDigit = true := by
  obtain ⟨d, ds, rfl⟩ := List.exists_cons_of_ne_nil h.nonempty
  exact ⟨d, _, rfl, h.digits d List.mem_cons_self⟩

theorem isDigit_of_mem_toDigits {n : Nat} {c : Char} (h : c ∈ Nat.toDigits 10 n) :
    c.isDigit = true :=
  Nat.isDigit_of_mem_toDigits (by decide) (by decide) h

/-- The digits of a natural number spell it. -/
theorem readsUnsigned_toDigits (n : Nat) :
    ReadsUnsigned (symbolsOfChars (Nat.toDigits 10 n)) (.ofNat false n) where
  opens := by simpa using (isWhole_toDigits n).opens []
  reads negative place rest hrest := by
    obtain ⟨behind, hnumeral⟩ := numeral_toDigits negative n place hrest
    exact ⟨behind, behind, hnumeral⟩

/-! ## Fractions and exponents -/

/-- Behind a point stands the fraction, up to what is no digit. -/
theorem fractionPart_point {cs : List Char} (hcs : ∀ c ∈ cs, c.isDigit = true) (hne : cs ≠ [])
    (place : Nat) {rest : List Symbol} (hrest : EndsDigits rest) :
    fractionPart ⟨place, .char '.' :: (symbolsOfChars cs ++ rest)⟩ =
      .ok (some (cs.map digitValue), ⟨place + 1 + cs.length, rest⟩) := by
  have hdigits := digits_append hcs (place + 1) hrest
  have hskip : Cursor.skip ⟨place, .char '.' :: (symbolsOfChars cs ++ rest)⟩ =
      ⟨place + 1, symbolsOfChars cs ++ rest⟩ := rfl
  have hnonempty : (cs.map digitValue).isEmpty = false := by
    rw [List.isEmpty_eq_false_iff]
    simp [hne]
  simp only [fractionPart, hskip, hdigits, hnonempty, Bool.false_eq_true, if_false]

/-- The text of an exponent, its sign in front. -/
def exponentText (plusSign : Bool) (e : Int) : String :=
  (if 0 ≤ e && plusSign then "+" else "") ++ toString e

section Exponent

variable {cs : List Char} {rest : List Symbol}

/-- The exponent behind a sign. -/
theorem exponentPart_signed {sign : Char} (hsign : sign = '+' ∨ sign = '-')
    (hcs : ∀ c ∈ cs, c.isDigit = true) (hne : cs ≠ []) (place : Nat) (hrest : EndsDigits rest) :
    ∃ first behind,
      exponentPart ⟨place, .char 'e' :: .char sign :: (symbolsOfChars cs ++ rest)⟩ =
        .ok (some (decide (sign = '-'), cs.map digitValue), first, ⟨behind, rest⟩) := by
  -- There are digits behind the sign, as the exponent would be refused without any.
  have hdigits (place : Nat) := digits_append hcs place hrest
  have hnonempty : (cs.map digitValue).isEmpty = false := by
    rw [List.isEmpty_eq_false_iff]
    simp [hne]
  rcases hsign with rfl | rfl
  · simp only [exponentPart, Cursor.skip, hdigits, hnonempty, Bool.false_eq_true, if_false]
    exact ⟨_, _, rfl⟩
  · simp only [exponentPart, Cursor.skip, hdigits, hnonempty, Bool.false_eq_true, if_false]
    exact ⟨_, _, rfl⟩

/-- The exponent without a sign: its first digit cannot be taken for one. -/
theorem exponentPart_unsigned (hcs : ∀ c ∈ cs, c.isDigit = true) (hne : cs ≠ []) (place : Nat)
    (hrest : EndsDigits rest) :
    ∃ first behind, exponentPart ⟨place, .char 'e' :: (symbolsOfChars cs ++ rest)⟩ =
      .ok (some (false, cs.map digitValue), first, ⟨behind, rest⟩) := by
  have hdigits (place : Nat) := digits_append hcs place hrest
  have hnonempty : (cs.map digitValue).isEmpty = false := by
    rw [List.isEmpty_eq_false_iff]
    simp [hne]
  -- What follows the letter is a digit, so it is no sign.
  obtain ⟨d, ds, hcons⟩ := List.exists_cons_of_ne_nil hne
  have hd : d.isDigit = true := hcs d (hcons ▸ List.mem_cons_self)
  have hnoSign : d ≠ '+' ∧ d ≠ '-' := by
    constructor <;> (rintro rfl; revert hd; decide)
  simp only [hcons, symbolsOfChars_cons, List.cons_append] at hdigits
  simp only [exponentPart, Cursor.skip, hcons, symbolsOfChars_cons, List.cons_append]
  split
  next heq => exact absurd (by simpa using congrArg List.head? heq) hnoSign.1
  next heq => exact absurd (by simpa using congrArg List.head? heq) hnoSign.2
  next =>
    simp only [hdigits, ← hcons, hnonempty, Bool.false_eq_true, if_false]
    exact ⟨_, _, rfl⟩

/-- The text of an exponent is read as that exponent, with or without a sign in front of what is not
negative. -/
theorem exponentPart_exponentText (plusSign : Bool) (e : Int) (place : Nat)
    (hrest : EndsNumber rest) :
    ∃ first behind,
      exponentPart ⟨place, .char 'e' :: (symbolsOf (exponentText plusSign e) ++ rest)⟩ =
        .ok (some (decide (e < 0), (Nat.toDigits 10 e.natAbs).map digitValue), first,
          ⟨behind, rest⟩) := by
  have hall (n : Nat) : ∀ c ∈ Nat.toDigits 10 n, c.isDigit = true := fun _ hc =>
    isDigit_of_mem_toDigits hc
  rw [exponentText, symbolsOf_append]
  -- A negative exponent has its sign by itself; of the others the sign depends on the style.
  cases e with
  | negSucc n =>
    have hnegative : decide (Int.negSucc n < 0) = true := decide_eq_true (Int.negSucc_lt_zero n)
    rw [toString_negSucc, hnegative]
    exact exponentPart_signed (.inr rfl) (hall (n + 1)) Nat.toDigits_ne_nil place hrest.digit
  | ofNat n =>
    have hnegative : decide (Int.ofNat n < 0) = false := rfl
    have hsign : (decide (0 ≤ Int.ofNat n) && plusSign) = plusSign := rfl
    rw [toString_ofNat, hnegative, hsign]
    cases plusSign with
    | true => exact exponentPart_signed (.inl rfl) (hall n) Nat.toDigits_ne_nil place hrest.digit
    | false => exact exponentPart_unsigned (hall n) Nat.toDigits_ne_nil place hrest.digit

end Exponent

/-! ## Decimals without exponent -/

/-- The digits in front of the point. -/
def wholeDigits (cs : List Char) (point : Int) : List Char :=
  if point ≤ 0 then ['0'] else cs.take point.toNat ++ List.replicate (point.toNat - cs.length) '0'

/-- The digits behind the point. -/
def fractionDigits (cs : List Char) (point : Int) : List Char :=
  if point ≤ 0 then List.replicate (-point).toNat '0' ++ cs
  else if (cs.drop point.toNat).isEmpty then ['0'] else cs.drop point.toNat

/-- Written out, the digits stand on both sides of the point, with zeros where there are none. -/
theorem toList_positional (cs : List Char) (point : Int) :
    (Binary64.positional cs point).toList =
      wholeDigits cs point ++ '.' :: fractionDigits cs point := by
  unfold Binary64.positional wholeDigits fractionDigits Binary64.zeros
  split
  next => simp
  next =>
    -- As many zeros are missing as there are places beyond the digits.
    have hwhole : point.toNat - (cs.take point.toNat).length = point.toNat - cs.length := by
      rw [List.length_take]
      omega
    dsimp only
    rw [hwhole]
    split
    next => simp
    next => simp

/-- A single zero is a whole part. -/
theorem isWhole_zero : IsWhole ['0'] where
  digits c hc := by
    rw [List.mem_singleton.1 hc]
    rfl
  nonempty := List.cons_ne_nil _ _
  lead _ := rfl

/-- The digits in front of the point are a whole part, as only a single zero begins with zero. -/
theorem isWhole_wholeDigits {c : Nat} (hc : 0 < c) (point : Int) :
    IsWhole (wholeDigits (Nat.toDigits 10 c) point) := by
  unfold wholeDigits
  split
  next => exact isWhole_zero
  next hpoint =>
    obtain ⟨d, ds, hcons, hd⟩ := toDigits_eq_cons c
    obtain ⟨k, hk⟩ : ∃ k, point.toNat = k + 1 := ⟨point.toNat - 1, by omega⟩
    refine ⟨fun a ha => ?_, ?_, fun hzero => ?_⟩
    · rcases List.mem_append.1 ha with ha | ha
      · exact isDigit_of_mem_toDigits (List.mem_of_mem_take ha)
      · rw [List.eq_of_mem_replicate ha]
        rfl
    · rw [hcons, hk, List.take_succ_cons]
      simp
    -- With digits in front of the point, the first of them is not zero.
    · have hlead := head?_toDigits hc
      rw [hcons] at hlead
      rw [hcons, hk, List.take_succ_cons] at hzero
      exact absurd hzero hlead

/-- Only digits stand behind the point. -/
theorem isDigit_of_mem_fractionDigits {c : Nat} {point : Int} {a : Char}
    (h : a ∈ fractionDigits (Nat.toDigits 10 c) point) : a.isDigit = true := by
  unfold fractionDigits at h
  split at h
  next =>
    -- Zeros stand in front of the digits, as the point stands before all of them.
    rcases List.mem_append.1 h with ha | ha
    · rw [List.eq_of_mem_replicate ha]
      rfl
    · exact isDigit_of_mem_toDigits ha
  next =>
    split at h
    next =>
      rw [List.mem_singleton.1 h]
      rfl
    next => exact isDigit_of_mem_toDigits (List.mem_of_mem_drop h)

/-- There is always a digit behind the point, be it a zero that is added. -/
theorem fractionDigits_ne_nil (c : Nat) (point : Int) :
    fractionDigits (Nat.toDigits 10 c) point ≠ [] := by
  unfold fractionDigits
  split
  next => simp [Nat.toDigits_ne_nil]
  next =>
    split
    next => simp
    next h => simpa using h

/-- The numeral of a decimal without exponent. -/
def Numeral.positional (c : Nat) (point : Int) : Numeral where
  negative := false
  whole := (wholeDigits (Nat.toDigits 10 c) point).map digitValue
  fraction := some ((fractionDigits (Nat.toDigits 10 c) point).map digitValue)
  exponent := none

/-- Digits written out with a point spell a number without an exponent. -/
theorem readsUnsigned_positional {c : Nat} (hc : 0 < c) (point : Int) :
    ReadsUnsigned (symbolsOf (Binary64.positional (Nat.toDigits 10 c) point))
      (.positional c point) where
  opens := by
    rw [symbolsOf_eq, toList_positional, symbolsOfChars_append]
    exact (isWhole_wholeDigits hc point).opens _
  reads negative place rest hrest := by
    have hfraction := fractionPart_point (fun _ ha => isDigit_of_mem_fractionDigits ha)
      (fractionDigits_ne_nil c point)
      (place + (wholeDigits (Nat.toDigits 10 c) point).length) hrest.digit
    -- The whole part, the fraction and the missing exponent are read one after the other.
    rw [symbolsOf_eq, toList_positional, symbolsOfChars_append, List.append_assoc]
    exact ⟨_, _, numeral_of_parts negative (isWhole_wholeDigits hc point) place
      (endsDigits_cons rfl _) hfraction (exponentPart_none _ hrest)⟩

/-! ### The value of such a decimal -/

/-- Zeros as characters are worth nothing either. -/
theorem ofDigits_zeroChars (n : Nat) :
    Numeral.ofDigits ((List.replicate n '0').map digitValue) = 0 := by
  have hzeros : (List.replicate n '0').map digitValue = List.replicate n 0 := by
    rw [List.map_replicate]
    rfl
  rw [hzeros, Numeral.ofDigits_zeros]

/-- The value that digits have around a point. -/
def pointedValue (whole fraction : List Char) : ℚ :=
  Numeral.ofDigits ((whole ++ fraction).map digitValue) * 10 ^ (0 - (fraction.length : ℤ))

/-- Zeros stand between the point and the digits. -/
theorem pointedValue_below (cs : List Char) {point : Int} (h : point ≤ 0) :
    pointedValue (wholeDigits cs point) (fractionDigits cs point) =
      Numeral.ofDigits (cs.map digitValue) * 10 ^ (point - cs.length) := by
  -- The zeros in front do not count as digits, but each moves the digits one place down.
  obtain ⟨n, hn⟩ := Int.eq_ofNat_of_zero_le (show 0 ≤ -point by omega)
  have hdigits : Numeral.ofDigits
      ((wholeDigits cs point ++ fractionDigits cs point).map digitValue) =
        Numeral.ofDigits (cs.map digitValue) := by
    rw [wholeDigits, fractionDigits, if_pos h, if_pos h]
    simp only [List.map_append, Numeral.ofDigits_append, ofDigits_zeroChars]
    simp [Numeral.ofDigits, digitValue]
  have hlength : (fractionDigits cs point).length = n + cs.length := by
    rw [fractionDigits, if_pos h, List.length_append, List.length_replicate]
    omega
  rw [pointedValue, hdigits, hlength]
  congr 2
  push_cast
  omega

/-- The point stands between the digits. -/
theorem pointedValue_between (cs : List Char) {k : Nat} (hpos : ¬ (k : Int) ≤ 0)
    (h : k < cs.length) :
    pointedValue (wholeDigits cs k) (fractionDigits cs k) =
      Numeral.ofDigits (cs.map digitValue) * 10 ^ ((k : ℤ) - cs.length) := by
  -- The point stands inside the digits, so there is something behind it and no zero is filled in.
  have hnonempty : ¬ (cs.drop k).isEmpty = true := by
    rw [List.isEmpty_iff, List.drop_eq_nil_iff]
    omega
  have hnoZeros : k - cs.length = 0 := by omega
  rw [wholeDigits, fractionDigits, if_neg hpos, if_neg hpos, Int.toNat_natCast, if_neg hnonempty,
    hnoZeros, List.replicate_zero, List.append_nil, pointedValue, List.take_append_drop,
    List.length_drop]
  congr 2
  omega

/-- Zeros fill the places up to the point. -/
theorem pointedValue_beyond (cs : List Char) {k : Nat} (hpos : ¬ (k : Int) ≤ 0)
    (h : cs.length ≤ k) :
    pointedValue (wholeDigits cs k) (fractionDigits cs k) =
      Numeral.ofDigits (cs.map digitValue) * 10 ^ ((k : ℤ) - cs.length) := by
  have hempty : (cs.drop k).isEmpty = true := by
    rw [List.isEmpty_iff, List.drop_eq_nil_iff]
    exact h
  have htake : cs.take k = cs := List.take_of_length_le h
  obtain ⟨m, rfl⟩ := Nat.exists_eq_add_of_le h
  -- The point stands behind the last digit, by as many places as there are zeros.
  have hexponent : ((cs.length + m : Nat) : ℤ) - cs.length = m := by push_cast; ring
  rw [wholeDigits, fractionDigits, if_neg hpos, if_neg hpos, Int.toNat_natCast, if_pos hempty,
    htake, Nat.add_sub_cancel_left, hexponent, zpow_natCast, pointedValue]
  simp only [List.map_append, Numeral.ofDigits_append, ofDigits_zeroChars, List.length_map,
    List.length_replicate]
  simp [Numeral.ofDigits, digitValue]

/-- The value of digits that are written out is that of the digits, moved by the point. -/
theorem magnitude_positional (c : Nat) (point : Int) :
    (Numeral.positional c point).magnitude = c * 10 ^ (point - Binary64.digitCount c) := by
  have hvalue : (Numeral.positional c point).magnitude =
      pointedValue (wholeDigits (Nat.toDigits 10 c) point)
        (fractionDigits (Nat.toDigits 10 c) point) := by
    unfold Numeral.magnitude Numeral.positional Numeral.exponentValue pointedValue
    dsimp only [Option.getD_some]
    rw [← List.map_append, List.length_map]
  have hcount : Binary64.digitCount c = (Nat.toDigits 10 c).length := rfl
  have hdigits := Numeral.ofDigits_toDigits c
  rw [hvalue, hcount]
  -- Where the point stands among the digits makes no difference to their value.
  generalize Nat.toDigits 10 c = cs at *
  by_cases hpoint : point ≤ 0
  · rw [pointedValue_below cs hpoint, hdigits]
  · obtain ⟨k, rfl⟩ := Int.eq_ofNat_of_zero_le (show 0 ≤ point by omega)
    rcases Nat.lt_or_ge k cs.length with hshort | hlong
    · rw [pointedValue_between cs hpoint hshort, hdigits]
    · rw [pointedValue_beyond cs hpoint hlong, hdigits]

/-! ## Decimals with an exponent -/

/-- The digits behind the first, if there are any. -/
def laterDigits (cs : List Char) : Option (List Char) :=
  if (cs.drop 1).isEmpty then none else some (cs.drop 1)

/-- Either nothing stands behind the first digit, or what does is kept. -/
theorem laterDigits_cases (cs : List Char) :
    laterDigits cs = none ∧ cs.drop 1 = [] ∨
      laterDigits cs = some (cs.drop 1) ∧ cs.drop 1 ≠ [] := by
  unfold laterDigits
  split
  next h => exact .inl ⟨rfl, List.isEmpty_iff.1 h⟩
  next h => exact .inr ⟨rfl, fun hnil => h (List.isEmpty_iff.2 hnil)⟩

/-- The numeral of a decimal with an exponent. -/
def Numeral.scientific (c : Nat) (point : Int) : Numeral where
  negative := false
  whole := ((Nat.toDigits 10 c).take 1).map digitValue
  fraction := (laterDigits (Nat.toDigits 10 c)).map (List.map digitValue)
  exponent := some (decide (point - 1 < 0), (Nat.toDigits 10 (point - 1).natAbs).map digitValue)

/-- The first digit alone is a whole part, and it may be a zero. -/
theorem isWhole_take_one (c : Nat) : IsWhole ((Nat.toDigits 10 c).take 1) := by
  obtain ⟨d, ds, hcons, hd⟩ := toDigits_eq_cons c
  rw [hcons, List.take_succ_cons, List.take_zero]
  refine ⟨fun a ha => ?_, by simp, fun _ => rfl⟩
  rw [List.mem_singleton.1 ha]
  exact hd

/-- The text of what stands between the first digit and the exponent. -/
def laterText (cs : List Char) : List Symbol :=
  match laterDigits cs with
  | none => []
  | some ds => .char '.' :: symbolsOfChars ds

/-- With an exponent, a point is written only if digits stand behind it. -/
theorem symbolsOf_scientific (plusSign : Bool) (cs : List Char) (point : Int) :
    symbolsOf (Binary64.scientific plusSign cs point) =
      symbolsOfChars (cs.take 1) ++
        (laterText cs ++ .char 'e' :: symbolsOf (exponentText plusSign (point - 1))) := by
  unfold Binary64.scientific laterText exponentText
  dsimp only
  rcases laterDigits_cases cs with ⟨hlater, hdrop⟩ | ⟨hlater, hdrop⟩
  · simp [hlater, hdrop, symbolsOf, symbolsOfChars]
  · have hnonempty : (cs.drop 1).isEmpty = false := List.isEmpty_eq_false_iff.2 hdrop
    rw [hlater, hnonempty]
    simp [symbolsOf, symbolsOfChars]

/-- The first digit is followed by a point or by the exponent, and so by no digit. -/
theorem endsDigits_laterText (cs : List Char) (more : List Symbol) :
    EndsDigits (laterText cs ++ .char 'e' :: more) := by
  unfold laterText
  split
  next => exact endsDigits_cons rfl more
  next => exact endsDigits_cons rfl _

/-- What stands between the first digit and the exponent is the fraction, if there is one. -/
theorem fractionPart_laterText (c place : Nat) (more : List Symbol) :
    ∃ behind, fractionPart ⟨place, laterText (Nat.toDigits 10 c) ++ .char 'e' :: more⟩ =
      .ok ((laterDigits (Nat.toDigits 10 c)).map (List.map digitValue),
        ⟨behind, .char 'e' :: more⟩) := by
  unfold laterText
  -- A single digit has no point behind it.
  rcases laterDigits_cases (Nat.toDigits 10 c) with ⟨hlater, -⟩ | ⟨hlater, hdrop⟩
  · rw [hlater]
    exact ⟨place, fractionPart_none place (by simp)⟩
  · rw [hlater]
    exact ⟨_, fractionPart_point (fun _ ha => isDigit_of_mem_toDigits (List.mem_of_mem_drop ha))
      hdrop place (endsDigits_cons rfl more)⟩

/-- The first digit, the others behind the point, and the exponent spell the decimal. -/
theorem readsUnsigned_scientific (plusSign : Bool) (c : Nat) (point : Int) :
    ReadsUnsigned (symbolsOf (Binary64.scientific plusSign (Nat.toDigits 10 c) point))
      (.scientific c point) where
  opens := by
    rw [symbolsOf_scientific]
    exact (isWhole_take_one c).opens _
  reads negative place rest hrest := by
    -- The fraction ends at the letter of the exponent, and the exponent where the number does.
    obtain ⟨mark, hfraction⟩ := fractionPart_laterText c
      (place + ((Nat.toDigits 10 c).take 1).length)
      (symbolsOf (exponentText plusSign (point - 1)) ++ rest)
    obtain ⟨first, behind, hexponent⟩ :=
      exponentPart_exponentText plusSign (point - 1) mark hrest
    refine ⟨first, behind, ?_⟩
    rw [symbolsOf_scientific, List.append_assoc, List.append_assoc, List.cons_append]
    exact numeral_of_parts negative (isWhole_take_one c) place (endsDigits_laterText _ _) hfraction
      hexponent

/-- The first digit and those behind it are all digits. -/
theorem take_append_laterDigits (cs : List Char) :
    cs.take 1 ++ (laterDigits cs).getD [] = cs := by
  rcases laterDigits_cases cs with ⟨hlater, hdrop⟩ | ⟨hlater, -⟩
  · rw [hlater, Option.getD_none, ← hdrop, List.take_append_drop]
  · rw [hlater, Option.getD_some, List.take_append_drop]

/-- One digit stands in front of the point. -/
theorem length_laterDigits (cs : List Char) :
    ((laterDigits cs).getD []).length = cs.length - 1 := by
  have hlength := congrArg List.length (take_append_laterDigits cs)
  rw [List.length_append, List.length_take] at hlength
  omega

/-- The exponent is one less than the place of the point, which stands behind the first digit. -/
theorem exponentValue_scientific (c : Nat) (point : Int) :
    (Numeral.scientific c point).exponentValue = point - 1 := by
  unfold Numeral.exponentValue Numeral.scientific
  dsimp only
  rw [Numeral.ofDigits_toDigits]
  split
  -- The sign was taken off, so it is put back where the exponent is negative.
  next h =>
    have hneg := of_decide_eq_true h
    omega
  next h =>
    have hnonneg := mt decide_eq_true h
    omega

/-- Written with an exponent, the digits have the same value as written out. -/
theorem magnitude_scientific (c : Nat) (point : Int) :
    (Numeral.scientific c point).magnitude = c * 10 ^ (point - Binary64.digitCount c) := by
  have hfraction : (Numeral.scientific c point).fraction.getD [] =
      ((laterDigits (Nat.toDigits 10 c)).getD []).map digitValue := by
    unfold Numeral.scientific
    cases laterDigits (Nat.toDigits 10 c) <;> rfl
  have hwhole : (Numeral.scientific c point).whole =
      ((Nat.toDigits 10 c).take 1).map digitValue := rfl
  have hcount : Binary64.digitCount c = (Nat.toDigits 10 c).length := rfl
  have hpos := Binary64.digitCount_pos c
  rw [Numeral.magnitude, exponentValue_scientific, hfraction, hwhole, ← List.map_append,
    take_append_laterDigits, Numeral.ofDigits_toDigits, List.length_map, length_laterDigits]
  congr 2
  -- The fraction has one digit less than there are, and that is what the exponent is less by.
  omega

/-! ## Numbers -/

/-- Zero has a spelling of its own. -/
theorem readsUnsigned_zero : ReadsUnsigned (symbolsOf "0.0") ⟨false, [0], some [0], none⟩ where
  opens := ⟨'0', _, rfl, rfl⟩
  reads negative place rest hrest := by
    have hfraction := fractionPart_point isWhole_zero.digits isWhole_zero.nonempty (place + 1)
      hrest.digit
    exact ⟨_, _, numeral_of_parts negative isWhole_zero place (endsDigits_cons rfl _) hfraction
      (exponentPart_none _ hrest)⟩

/-- A number that is not zero is written as its shortest decimal. -/
theorem readsUnsigned_shortest {x : Binary64} (h : x.isZero = false) (layout : Binary64.Layout) :
    ∃ n, ReadsUnsigned (symbolsOf
        (if layout.lowest ≤ x.shortest.point && x.shortest.point ≤ layout.highest then
          Binary64.positional (Nat.toDigits 10 x.shortest.coefficient) x.shortest.point
        else Binary64.scientific layout.plusSign (Nat.toDigits 10 x.shortest.coefficient)
          x.shortest.point)) n ∧
      n.magnitude = x.shortest.value ∧ n.isWhole = false := by
  -- The two layouts differ in where they put the point, and not in the value.
  have hpos := Binary64.coefficient_shortest_pos h
  split
  next => exact ⟨_, readsUnsigned_positional hpos _, magnitude_positional _ _, rfl⟩
  next => exact ⟨_, readsUnsigned_scientific _ _ _, magnitude_scientific _ _, Bool.and_false _⟩

/-- The text of a number without its sign is a numeral of its decimal. -/
theorem readsUnsigned_float (x : Binary64) (layout : Binary64.Layout) :
    ∃ text n, x.text layout = (if x.isNegative then "-" else "") ++ text ∧
      ReadsUnsigned (symbolsOf text) n ∧ n.magnitude = x.decimalValue ∧ n.isWhole = false := by
  -- Zero has a spelling of its own; any other number is written in its shortest digits.
  cases hzero : x.isZero with
  | true =>
    refine ⟨"0.0", _, ?_, readsUnsigned_zero, ?_, rfl⟩
    · simp only [Binary64.text, hzero, if_true]
    · rw [Binary64.decimalValue_of_isZero hzero]
      simp [Numeral.magnitude, Numeral.exponentValue, Numeral.ofDigits]
  | false =>
    obtain ⟨n, hreads, hvalue, hwhole⟩ := readsUnsigned_shortest hzero layout
    refine ⟨_, n, ?_, hreads, ?_, hwhole⟩
    · simp only [Binary64.text, hzero, Bool.false_eq_true, if_false]
    · rw [hvalue, Binary64.decimalValue_of_not_isZero hzero]

/-- **Floating-point numbers**: the text of a finite number is a numeral with its sign and the value
of its decimal, and not that of an integer. -/
theorem readsNumber_float {x : Binary64} (h : x.isFinite = true) :
    ∃ n, ReadsNumber (symbolsOf (floatText x)) n ∧ n.negative = x.isNegative ∧
      n.magnitude = x.decimalValue ∧ n.isWhole = false := by
  obtain ⟨text, n, htext, hreads, hvalue, hwhole⟩ := readsUnsigned_float x floatLayout
  rw [floatText, if_pos h, htext, symbolsOf_append]
  cases hsign : x.isNegative with
  | true => exact ⟨{ n with negative := true }, hreads.negative, rfl, hvalue, hwhole⟩
  | false => exact ⟨{ n with negative := false }, hreads.positive, rfl, hvalue, hwhole⟩

/-- **Integers**: the text of an integer is a numeral with its sign and its value, without fraction
and exponent. -/
theorem readsNumber_int (i : Int) :
    ∃ n, ReadsNumber (symbolsOf (toString i)) n ∧ n.negative = decide (i < 0) ∧
      n.magnitude = i.natAbs ∧ n.isWhole = true := by
  -- Without a fraction and an exponent the value is that of the digits.
  have hvalue (negative : Bool) (n : Nat) : (Numeral.ofNat negative n).magnitude = n := by
    simp [Numeral.magnitude, Numeral.ofNat, Numeral.exponentValue, Numeral.ofDigits_toDigits]
  cases i with
  | ofNat n =>
    rw [toString_ofNat]
    exact ⟨_, (readsUnsigned_toDigits n).positive, rfl, hvalue false n, rfl⟩
  | negSucc n =>
    rw [toString_negSucc]
    exact ⟨_, (readsUnsigned_toDigits (n + 1)).negative,
      (decide_eq_true (Int.negSucc_lt_zero n)).symm, hvalue true (n + 1), rfl⟩

end ChangeFeed.Json

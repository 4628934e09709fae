import ChangeFeed.Proofs.Json.Text

/-!
# JSON: Integers

An integer of 64 bits, of either sign, is read back from its digits, unless what follows it could be
taken for a part of the number.
-/

namespace ChangeFeed.Json

/-! ## Digits -/

/-- Digits cannot go on with what follows. -/
def EndsDigits (rest : List Symbol) : Prop := ∀ s ∈ rest.head?, digit? s = none

theorem endsDigits_cons {c : Char} (h : c.isDigit = false) (rest : List Symbol) :
    EndsDigits (.char c :: rest) := by
  simp [EndsDigits, digit?, h]

/-- A number cannot go on with what follows. -/
structure EndsNumber (rest : List Symbol) : Prop where
  digit : EndsDigits rest
  point : rest.head? ≠ some (.char '.')
  lower : rest.head? ≠ some (.char 'e')
  upper : rest.head? ≠ some (.char 'E')

theorem endsNumber_nil : EndsNumber [] := ⟨by simp [EndsDigits], by simp, by simp, by simp⟩

/-- A character that cannot go on with a number ends it. -/
theorem endsNumber_cons {c : Char} (rest : List Symbol) (hdigit : c.isDigit = false)
    (hpoint : c ≠ '.') (hlower : c ≠ 'e') (hupper : c ≠ 'E') :
    EndsNumber (.char c :: rest) :=
  ⟨endsDigits_cons hdigit rest, by simpa using hpoint, by simpa using hlower, by simpa using hupper⟩

/-- The value of a decimal digit. -/
def digitValue (c : Char) : Nat := c.toNat - '0'.toNat

theorem digit?_char {c : Char} (h : c.isDigit = true) :
    digit? (.char c) = some (digitValue c) := by
  simp only [digit?, h, if_true, digitValue]

/-- Digits are read up to the first character that is none. -/
theorem digits_append {cs : List Char} (hcs : ∀ c ∈ cs, c.isDigit = true) (place : Nat)
    {rest : List Symbol} (hrest : EndsDigits rest) :
    digits ⟨place, symbolsOfChars cs ++ rest⟩ =
      (cs.map digitValue, ⟨place + cs.length, rest⟩) := by
  -- The reader takes all digits, and then it stops.
  have hstop : rest.takeWhile (fun s => (digit? s).isSome) = [] := by
    cases rest with
    | nil => rfl
    | cons s rest => simp [hrest s rfl]
  have htake : (symbolsOfChars cs ++ rest).takeWhile (fun s => (digit? s).isSome) =
      symbolsOfChars cs := by
    rw [List.takeWhile_append_of_pos, hstop, List.append_nil]
    intro s hs
    obtain ⟨c, hc, rfl⟩ := List.mem_map.1 hs
    simp [digit?_char (hcs c hc)]
  have hvalues : (symbolsOfChars cs).filterMap digit? = cs.map digitValue := by
    rw [symbolsOfChars, List.filterMap_map]
    clear htake
    -- Each digit has a value, so none is left out.
    induction cs with
    | nil => rfl
    | cons c cs ih =>
      have hc : (digit? ∘ Symbol.char) c = some (digitValue c) :=
        digit?_char (hcs c List.mem_cons_self)
      rw [List.filterMap_cons_some hc, ih fun d hd => hcs d (List.mem_cons_of_mem c hd),
        List.map_cons]
  have hlength : (symbolsOfChars cs).length = cs.length := List.length_map _
  simp only [digits, htake, hvalues, List.length_map]
  rw [List.drop_left' hlength]

/-! ## The value of digits -/

/-- Reading digits does not make a number smaller. -/
theorem le_foldl_digits (ds : List Nat) (n : Nat) : n ≤ ds.foldl (fun n d => n * 10 + d) n := by
  induction ds generalizing n with
  | nil => exact Nat.le_refl n
  | cons d ds ih =>
    have hstep := ih (n * 10 + d)
    simp only [List.foldl_cons]
    omega

/-- As long as the number is within the bound, no digit is left over. -/
theorem absorb_of_le {bound n : Nat} {ds : List Nat}
    (h : ds.foldl (fun n d => n * 10 + d) n ≤ bound) :
    Numeral.absorb bound n ds = (ds.foldl (fun n d => n * 10 + d) n, 0) := by
  induction ds generalizing n with
  | nil => rfl
  | cons d ds ih =>
    simp only [List.foldl_cons] at h ⊢
    -- What was read up to here is no greater than the whole, so the bound is not passed yet.
    have hstep : n * 10 + d ≤ bound := Nat.le_trans (le_foldl_digits ds _) h
    rw [Numeral.absorb, if_pos hstep, ih h]

/-- The digits of a number are worth that number. -/
theorem foldl_toDigits (n : Nat) :
    ((Nat.toDigits 10 n).map digitValue).foldl (fun n d => n * 10 + d) 0 = n := by
  have hvalue : Nat.ofDigitChars 10 (Nat.toDigits 10 n) 0 = n := Nat.ofDigitChars_ten_toDigits
  rw [Nat.ofDigitChars_eq_foldl] at hvalue
  rw [List.foldl_map]
  simpa only [digitValue, Nat.mul_comm] using hvalue

/-- No number but zero begins with the digit zero. -/
theorem head?_toDigits {n : Nat} (h : 0 < n) :
    ((Nat.toDigits 10 n).map digitValue).head? ≠ some 0 := by
  induction n using Nat.strongRecOn with
  | _ n ih =>
    by_cases hsmall : n < 10
    · have hvalue : digitValue (Nat.digitChar n) = n := by
        simp only [digitValue]
        exact Nat.toNat_digitChar_sub_48_of_lt_ten hsmall
      rw [Nat.toDigits_of_lt_base hsmall]
      simp only [List.map_cons, List.head?_cons, hvalue, ne_eq, Option.some.injEq]
      omega
    · have hrest := ih (n / 10) (by omega) (by omega)
      -- The first digit of a longer number is that of the number without its last digit.
      rw [Nat.toDigits_of_base_le (by decide) (by omega), List.map_append, List.head?_append]
      cases hhead : ((Nat.toDigits 10 (n / 10)).map digitValue).head? with
      | none => simp [Nat.toDigits_ne_nil] at hhead
      | some d =>
        rw [hhead] at hrest
        exact hrest

/-! ## Numerals -/

/-- Without a point there is no fraction. -/
theorem fractionPart_none (place : Nat) {rest : List Symbol} (h : rest.head? ≠ some (.char '.')) :
    fractionPart ⟨place, rest⟩ = .ok (none, ⟨place, rest⟩) := by
  unfold fractionPart
  split
  next heq => exact absurd (congrArg List.head? heq) h
  next => rfl

/-- Where the number ends there is no exponent. -/
theorem exponentPart_none (place : Nat) {rest : List Symbol} (h : EndsNumber rest) :
    exponentPart ⟨place, rest⟩ = .ok (none, place, ⟨place, rest⟩) := by
  unfold exponentPart
  dsimp only
  split
  next => exact absurd rfl h.lower
  next => exact absurd rfl h.upper
  next => rfl

/-- Digits in front of the point, without a zero that does not belong there. -/
structure IsWhole (cs : List Char) : Prop where
  digits : ∀ c ∈ cs, c.isDigit = true
  nonempty : cs ≠ []
  lead : (cs.map digitValue).head? = some 0 → cs.length = 1

/-- The digits of a number are a whole part: only that of zero begins with zero. -/
theorem isWhole_toDigits (n : Nat) : IsWhole (Nat.toDigits 10 n) where
  digits _ hc := Nat.isDigit_of_mem_toDigits (by decide) (by decide) hc
  nonempty := Nat.toDigits_ne_nil
  lead hzero := by
    rcases Nat.eq_zero_or_pos n with rfl | hn
    · rw [Nat.toDigits_zero]
      rfl
    · exact absurd hzero (head?_toDigits hn)

/-- A numeral is read part by part. -/
theorem numeral_of_parts (negative : Bool) {cs : List Char} (hcs : IsWhole cs) (place : Nat)
    {more : List Symbol} (hmore : EndsDigits more) {fraction : Option (List Nat)} {c d : Cursor}
    (hfraction : fractionPart ⟨place + cs.length, more⟩ = .ok (fraction, c))
    {exponent : Option (Bool × List Nat)} {first : Nat}
    (hexponent : exponentPart c = .ok (exponent, first, d)) :
    numeral negative ⟨place, symbolsOfChars cs ++ more⟩ =
      .ok (⟨negative, cs.map digitValue, fraction, exponent⟩, first, d) := by
  have hdigits := digits_append hcs.digits place hmore
  have hnonempty : (cs.map digitValue).isEmpty = false := by
    rw [List.isEmpty_eq_false_iff]
    simp [hcs.nonempty]
  -- A zero in front of other digits would be refused.
  have hlead : ((cs.map digitValue).head? = some 0 &&
      decide (1 < (cs.map digitValue).length)) = false := by
    rw [List.length_map]
    by_cases hzero : (cs.map digitValue).head? = some 0
    · simp [hcs.lead hzero]
    · simp only [hzero, decide_false, Bool.false_and]
  unfold numeral
  simp only [hdigits, hnonempty, hlead, Bool.false_eq_true, if_false, bind, Except.bind, pure,
    Except.pure, hfraction, hexponent]

/-- The numeral of a whole number. -/
def Numeral.ofNat (negative : Bool) (n : Nat) : Numeral :=
  ⟨negative, (Nat.toDigits 10 n).map digitValue, none, none⟩

/-- The digits of a number are read as its numeral. -/
theorem numeral_toDigits (negative : Bool) (n place : Nat) {rest : List Symbol}
    (hrest : EndsNumber rest) :
    ∃ behind, numeral negative ⟨place, symbolsOfChars (Nat.toDigits 10 n) ++ rest⟩ =
      .ok (.ofNat negative n, behind, ⟨behind, rest⟩) :=
  ⟨place + (Nat.toDigits 10 n).length,
    numeral_of_parts negative (isWhole_toDigits n) place hrest.digit
      (fractionPart_none _ hrest.point) (exponentPart_none _ hrest)⟩

/-- An integer that is not negative is read up to the greatest of 64 bits without a sign. -/
theorem int?_ofNat {n : Nat} (h : n ≤ Numeral.maxSignificand) :
    (Numeral.ofNat false n).int? = some (n : Int) := by
  have habsorb : Numeral.absorb Numeral.maxSignificand 0 ((Nat.toDigits 10 n).map digitValue) =
      (n, 0) := by
    rw [absorb_of_le (by rw [foldl_toDigits]; exact h), foldl_toDigits]
  simp [Numeral.int?, Numeral.ofNat, habsorb]

/-- A negative one is read down to the least of 64 bits with a sign. -/
theorem int?_ofNat_negative {n : Nat} (hpos : 0 < n) (h : n ≤ Nat.pow 2 63) :
    (Numeral.ofNat true n).int? = some (-(n : Int)) := by
  have hbound : n ≤ Numeral.maxSignificand := Nat.le_trans h (by decide)
  -- A magnitude of up to 63 bits fits, so no digit is left over.
  have habsorb : Numeral.absorb Numeral.maxSignificand 0 ((Nat.toDigits 10 n).map digitValue) =
      (n, 0) := by
    rw [absorb_of_le (by rw [foldl_toDigits]; exact hbound), foldl_toDigits]
  have hne : n ≠ 0 := Nat.ne_of_gt hpos
  simp only [Numeral.int?, Numeral.ofNat, habsorb]
  simp [hne, h]

end ChangeFeed.Json

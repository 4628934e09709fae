import ChangeFeed.Instant.Read
import ChangeFeed.Instant.Text

/-!
# Instants: Reading what was written

The text of a point in time is read back, whatever the year and the fraction are. The parts are read
from left to right, and every part ends where a character stands that is no digit.

## Main results

* `readNumber_padded`: a number with zeros in front is read up to the end of its digits.
* `readLenient_text`: the text of a point in time is read as that point in time.
-/

namespace ChangeFeed

/-! ## Digits -/

/-- A padded number consists of digits. -/
theorem isDigit_of_mem_padded {width n : Nat} {c : Char} (h : c ∈ padded width n) :
    c.isDigit = true := by
  rcases List.mem_append.1 h with h | h
  · rw [List.eq_of_mem_replicate h]
    rfl
  · exact Nat.isDigit_of_mem_toDigits (by decide) (by decide) h

/-- A number that fits is padded to the width. -/
theorem length_padded {width n : Nat} (hwidth : 0 < width) (h : n < Nat.pow 10 width) :
    (padded width n).length = width := by
  have hlength := (Nat.length_toDigits_le_iff (b := 10) (n := n) (by decide) hwidth).2 h
  simp only [padded, List.length_append, List.length_replicate]
  omega

/-- Wherever a number stands, its first digit is looked at first. -/
theorem padded_eq_cons (width n : Nat) :
    ∃ d ds, padded width n = d :: ds ∧ d.isDigit = true := by
  have hne : padded width n ≠ [] := by simp [padded, Nat.toDigits_ne_nil]
  obtain ⟨d, ds, hdigits⟩ := List.exists_cons_of_ne_nil hne
  exact ⟨d, ds, hdigits, isDigit_of_mem_padded (hdigits ▸ List.mem_cons_self)⟩

namespace Instant

/-- The digits of a padded number have its value. -/
theorem ofDigits_padded (width n : Nat) : ofDigits (padded width n) = n := by
  -- The zeros in front add nothing.
  have hzeros : ∀ k, (List.replicate k '0').foldl (fun n c => 10 * n + digitValue c) 0 = 0 := by
    intro k
    induction k with
    | zero => rfl
    | succ k ih => exact ih
  have hvalue : Nat.ofDigitChars 10 (Nat.toDigits 10 n) 0 = n := Nat.ofDigitChars_ten_toDigits
  rw [Nat.ofDigitChars_eq_foldl] at hvalue
  rw [ofDigits, padded, List.foldl_append, hzeros]
  exact hvalue

/-! ## Numbers -/

variable {c : Char}

/-- The digits in front are those up to the first character that is none. -/
theorem leadingDigits_append {max : Nat} {digits : List Char}
    (hdigits : ∀ d ∈ digits, d.isDigit = true) (hlength : digits.length ≤ max)
    (hc : c.isDigit = false) (rest : List Char) :
    leadingDigits max (digits ++ c :: rest) = digits := by
  rw [leadingDigits, List.take_append, List.take_of_length_le hlength,
    List.takeWhile_append_of_pos hdigits]
  cases max - digits.length with
  | zero => simp
  | succ k => simp [hc]

/-- **Numbers**: a number with zeros in front is read up to the end of its digits. -/
theorem readNumber_padded {width n max : Nat} (hlength : (padded width n).length ≤ max)
    (hc : c.isDigit = false) (rest : List Char) :
    readNumber max (padded width n ++ c :: rest) = .ok (n, c :: rest) := by
  obtain ⟨d, ds, hdigits, -⟩ := padded_eq_cons width n
  have hleading := leadingDigits_append (fun _ => isDigit_of_mem_padded) hlength hc rest
  have hsome : (padded width n).isEmpty = false := by rw [hdigits]; rfl
  simp only [readNumber, hleading, hsome, Bool.false_eq_true, if_false, ofDigits_padded,
    List.drop_left]

/-- No digit is a blank. -/
theorem not_isBlank_of_isDigit (h : c.isDigit = true) : Text.isBlank c = false := by
  have hbounds : 48 ≤ c.toNat ∧ c.toNat ≤ 57 := Char.isDigit_iff_toNat.1 h
  simp only [Text.isBlank, Bool.or_eq_false_iff, Bool.and_eq_false_iff, decide_eq_false_iff_not,
    beq_eq_false_iff_ne]
  omega

/-- No blank stands in front of a number. -/
theorem skipBlanks_padded (width n : Nat) (rest : List Char) :
    skipBlanks (padded width n ++ rest) = padded width n ++ rest := by
  obtain ⟨d, ds, hdigits, hd⟩ := padded_eq_cons width n
  rw [hdigits, List.cons_append, skipBlanks, List.dropWhile_cons,
    not_isBlank_of_isDigit hd]
  rfl

/-- A part of two digits is read if it lies between its bounds. -/
theorem readPart_padded {low high n : Nat} (hlow : low ≤ n) (hhigh : n ≤ high) (hlt : n < 100)
    (hc : c.isDigit = false) (rest : List Char) :
    readPart low high (padded 2 n ++ c :: rest) = .ok (n, c :: rest) := by
  have hlength : (padded 2 n).length ≤ 2 := Nat.le_of_eq (length_padded (by decide) hlt)
  simp only [readPart, skipBlanks_padded, readNumber_padded hlength hc rest, within, bind,
    Except.bind, hlow, hhigh, and_self, if_true]

/-! ## Years -/

/-- A year is read with its sign, if it has one. -/
theorem readYear_yearText {year : Int} (hyear : firstYear ≤ year ∧ year ≤ lastYear)
    (hc : c.isDigit = false) (rest : List Char) :
    readYear (Date.yearText year ++ c :: rest) = .ok (year, c :: rest) := by
  have hbounds : -maxYear - 1 ≤ year ∧ year ≤ maxYear := by
    have hmax : maxYear = 2147483647 := by decide
    simp only [firstYear, lastYear] at hyear
    omega
  -- With a sign, the number may be as long as the text.
  have hsigned : (padded 4 year.natAbs).length ≤ (padded 4 year.natAbs ++ c :: rest).length := by
    simp
  -- Years of four digits have no sign, all others have one.
  by_cases hfour : 0 ≤ year ∧ year ≤ 9999
  · have hlength : (padded 4 year.toNat).length ≤ 4 :=
      Nat.le_of_eq (length_padded (by decide) (show year.toNat < 10000 by omega))
    have hvalue : ((year.toNat : Nat) : Int) = year := by omega
    have hnumber := readNumber_padded hlength hc rest
    obtain ⟨d, ds, hdigits, hd⟩ := padded_eq_cons 4 year.toNat
    have hplus : d ≠ '+' := by rintro rfl; cases hd
    have hminus : d ≠ '-' := by rintro rfl; cases hd
    simp only [readYear, Date.yearText, if_pos hfour, skipBlanks_padded]
    rw [hdigits, List.cons_append] at hnumber ⊢
    simp [hplus, hminus, hnumber, bind, Except.bind, pure, Except.pure, hvalue, hbounds]
  · have hnumber := readNumber_padded hsigned hc rest
    have hskip (sign : Char) (hsign : Text.isBlank sign = false) (cs : List Char) :
        skipBlanks (sign :: cs) = sign :: cs := by simp [skipBlanks, hsign]
    by_cases hnegative : year < 0
    · have hvalue : -((year.natAbs : Nat) : Int) = year := by omega
      simp only [readYear, Date.yearText, if_neg hfour, if_pos hnegative, List.cons_append,
        hskip '-' rfl, hnumber, bind, Except.bind, pure, Except.pure, hvalue, if_pos hbounds]
    · have hvalue : ((year.natAbs : Nat) : Int) = year := by omega
      simp only [readYear, Date.yearText, if_neg hfour, if_neg hnegative, List.cons_append,
        hskip '+' rfl, hnumber, bind, Except.bind, pure, Except.pure, hvalue, if_pos hbounds]

/-! ## Fractions -/

/-- A fraction is read by as many digits as there are, up to nine. -/
theorem readFraction_padded {width n : Nat} (hwidth : 0 < width ∧ width ≤ 9)
    (h : n < Nat.pow 10 width) (hc : c.isDigit = false) (rest : List Char) :
    readFraction (padded width n ++ c :: rest) = .ok (n * Nat.pow 10 (9 - width), c :: rest) := by
  have hlength := length_padded hwidth.1 h
  have hnine : (padded width n).length ≤ 9 := by omega
  have hnumber := readNumber_padded hnine hc rest
  -- The number of digits tells which part of a second they count.
  have hdigits : (padded width n ++ c :: rest).length - (c :: rest).length = width := by
    rw [List.length_append, hlength, Nat.add_sub_cancel]
  have hrest : (c :: rest).dropWhile Char.isDigit = c :: rest := by simp [hc]
  simp only [readFraction, hnumber, hdigits, hrest, bind, Except.bind]

/-- However many digits a fraction needs, it is read back. -/
theorem readOptionalFraction_fractionText {nanos : Nat} (h : nanos < nanosPerSecond)
    (rest : List Char) :
    readOptionalFraction (fractionText nanos ++ 'Z' :: rest) = .ok (nanos, 'Z' :: rest) := by
  have hzone : Char.isDigit 'Z' = false := rfl
  simp only [nanosPerSecond] at h
  unfold fractionText
  split
  next hzero =>
    subst hzero
    rfl
  next =>
    -- The shortest of the three widths that leaves nothing out is the one written.
    split
    next hmillis =>
      have hfraction := readFraction_padded (n := nanos / 1000000)
        (show 0 < 3 ∧ 3 ≤ 9 by decide) (show nanos / 1000000 < 1000 by omega) hzone rest
      have hvalue : nanos / 1000000 * Nat.pow 10 (9 - 3) = nanos :=
        Nat.div_mul_cancel (Nat.dvd_of_mod_eq_zero hmillis)
      rwa [hvalue] at hfraction
    next =>
      split
      next hmicros =>
        have hfraction := readFraction_padded (n := nanos / 1000)
          (show 0 < 6 ∧ 6 ≤ 9 by decide) (show nanos / 1000 < 1000000 by omega) hzone rest
        have hvalue : nanos / 1000 * Nat.pow 10 (9 - 6) = nanos :=
          Nat.div_mul_cancel (Nat.dvd_of_mod_eq_zero hmicros)
        rwa [hvalue] at hfraction
      next =>
        have hfraction := readFraction_padded (n := nanos)
          (show 0 < 9 ∧ 9 ≤ 9 by decide) h hzone rest
        have hvalue : nanos * Nat.pow 10 (9 - 9) = nanos := Nat.mul_one nanos
        rwa [hvalue] at hfraction

/-! ## Points in time -/

/-- The parts of a date make the date again. -/
theorem ofParts?_date (d : Date) : Date.ofParts? d.year d.month d.day = some d := by
  rw [Date.ofParts?, dif_pos ⟨d.year_mem, d.month_mem, d.day_mem⟩]

/-- At Greenwich, a clock shows the time itself. -/
theorem ofLocal?_zero (t : Instant) : ofLocal? t.date t.minute t.second t.nanos 0 = some t := by
  have hparts : ofParts? t.date t.minute t.second t.nanos = some t := by
    rw [ofParts?, dif_pos ⟨t.minute_lt, t.second_le, t.nanos_lt⟩]
  have hminute := t.minute_lt
  have hbelow : ¬ ((t.minute : Int) - 0 < 0) := by omega
  have habove : (t.minute : Int) - 0 < minutesPerDay := by omega
  have hsame : ((t.minute : Int) - 0).toNat = t.minute := by omega
  simp only [ofLocal?, if_neg hbelow, if_pos habove, hsame, hparts]

/-- What is written of a point in time makes the point in time again. -/
theorem written_instant (t : Instant) :
    Written.instant ⟨t.date.year, t.date.month, t.date.day, t.minute / 60, t.minute % 60, t.second,
      t.nanos, 0⟩ = .ok t := by
  have hminute : 60 * (t.minute / 60) + t.minute % 60 = t.minute := Nat.div_add_mod ..
  simp only [Written.instant, ofParts?_date, hminute, ofLocal?_zero]
  rfl

/-- No month has more days. -/
theorem day_le (d : Date) : d.day ≤ 31 := by
  refine Nat.le_trans d.day_mem.2 ?_
  unfold daysInMonth
  split <;> (try split) <;> decide

/-- A mark is read if it is no blank. -/
theorem readMark_cons (hc : Text.isBlank c = false) (rest : List Char) :
    readMark c (c :: rest) = .ok rest := by
  simp [readMark, skipBlanks, hc, readChar]

/-- What follows the seconds is a point or the letter of Greenwich. -/
theorem fractionText_eq_cons (nanos : Nat) :
    ∃ c rest, fractionText nanos ++ ['Z'] = c :: rest ∧ c.isDigit = false := by
  unfold fractionText
  split
  · exact ⟨'Z', [], rfl, rfl⟩
  · split
    · exact ⟨'.', _, rfl, rfl⟩
    · split <;> exact ⟨'.', _, rfl, rfl⟩

/-- **Reading back**: the text of a point in time is read as that point in time. -/
theorem readLenient_text (t : Instant) : readLenient t.text = .ok t := by
  obtain ⟨c, rest, htail, hc⟩ := fractionText_eq_cons t.nanos
  have hfraction := readOptionalFraction_fractionText t.nanos_lt []
  rw [htail] at hfraction
  have htext : t.text.toList = Date.yearText t.date.year ++ '-' :: (padded 2 t.date.month ++
      '-' :: (padded 2 t.date.day ++ 'T' :: (padded 2 (t.minute / 60) ++
        ':' :: (padded 2 (t.minute % 60) ++ ':' :: (padded 2 t.second ++ c :: rest))))) := by
    simp [text, Date.text, htail]
  -- Every part lies between the bounds that the reader checks.
  have hmonth := t.date.month_mem
  have hday := t.date.day_mem.1
  have hday' := day_le t.date
  have hminute : t.minute < 1440 := t.minute_lt
  have hsecond := t.second_le
  have hseparator (cs : List Char) : readSeparator ('T' :: cs) = .ok cs := rfl
  have hzone : readZone (skipBlanks ['Z']) = .ok (0, []) := rfl
  simp only [readLenient, htext, readYear_yearText t.date.year_mem (c := '-') rfl,
    readMark_cons (c := '-') rfl, readPart_padded hmonth.1 hmonth.2 (by omega) (c := '-') rfl,
    readPart_padded hday hday' (by omega) (c := 'T') rfl, hseparator,
    readPart_padded (n := t.minute / 60) (Nat.zero_le _) (show _ ≤ 23 by omega) (by omega)
      (c := ':') rfl,
    readMark_cons (c := ':') rfl,
    readPart_padded (n := t.minute % 60) (Nat.zero_le _) (show _ ≤ 59 by omega) (by omega)
      (c := ':') rfl,
    readPart_padded (Nat.zero_le _) hsecond (by omega) hc, hfraction, hzone, bind, Except.bind]
  exact written_instant t

end Instant

end ChangeFeed

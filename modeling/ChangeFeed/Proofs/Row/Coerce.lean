import ChangeFeed.Proofs.SortedMap
import ChangeFeed.Row.Coerce
import Mathlib.Algebra.Order.Group.Unbundled.Int

/-!
# Rows: Coercion: Integers

Coercion keeps the columns of a row, and it keeps the order of the integers in them: whatever the
type of a column, a larger integer never becomes a smaller one, and how wide it was in the log makes
no difference. The arithmetic goes over all of 64 bits. Seconds are rounded toward zero, and the
milliseconds of a date end at the last integer that there is.

## Main results

* `coerce_of_integer?`, `coerce_ne_int`: integers become integers, and nothing else does.
* `integerIn_le`: the integers of a column keep their order.
* `coercion_keeps_columns_and_order`: what becomes of a row of any table.
-/

namespace ChangeFeed

/-! ## Arithmetic -/

/-- What lies between the bounds is kept as it is. -/
theorem toInt_nearestInt64 (n : Int) :
    (nearestInt64 n).toInt = max Int64.minValue.toInt (min n Int64.maxValue.toInt) := by
  have hlow : Int64.minValue.toInt = -9223372036854775808 := rfl
  have hhigh : Int64.maxValue.toInt = 9223372036854775807 := rfl
  exact Int64.toInt_ofInt_of_le (by omega) (by omega)

theorem nearestInt64_le {m n : Int} (h : m ≤ n) : nearestInt64 m ≤ nearestInt64 n := by
  rw [Int64.le_iff_toInt_le, toInt_nearestInt64, toInt_nearestInt64]
  omega

/-! ### Seconds -/

/-- Rounding toward zero leaves less than a unit, and never goes beyond. -/
theorem tdiv_bounds (n : Int) : |n - 1000 * n.tdiv 1000| < 1000 ∧ |1000 * n.tdiv 1000| ≤ |n| := by
  have hsplit : 1000 * n.tdiv 1000 + n.tmod 1000 = n := Int.mul_tdiv_add_tmod n 1000
  have hrest : (n.tmod 1000).natAbs = n.natAbs % 1000 := Int.natAbs_tmod n 1000
  have hwhole : (n.tdiv 1000).natAbs = n.natAbs / 1000 := Int.natAbs_tdiv n 1000
  simp only [Int.abs_eq_natAbs]
  omega

/-- The seconds of a time always fit. -/
theorem toInt_secondsOfMillis (millis : Int64) :
    (secondsOfMillis millis).toInt = millis.toInt.tdiv 1000 := by
  -- The whole part is no greater than the time itself, so it lies within the same bounds.
  have hlow := millis.le_toInt
  have hhigh := millis.toInt_lt
  have hwhole : (millis.toInt.tdiv 1000).natAbs = millis.toInt.natAbs / 1000 :=
    Int.natAbs_tdiv millis.toInt 1000
  have hmin : Int64.minValue.toInt = -9223372036854775808 := rfl
  have hmax : Int64.maxValue.toInt = 9223372036854775807 := rfl
  rw [secondsOfMillis, toInt_nearestInt64, millisPerSecond]
  omega

theorem secondsOfMillis_le {m n : Int64} (h : m ≤ n) : secondsOfMillis m ≤ secondsOfMillis n := by
  rw [Int64.le_iff_toInt_le] at h
  exact nearestInt64_le (Int.tdiv_le_tdiv (by decide) h)

/-! ### Days -/

theorem millisOfDays_le {m n : Int64} (h : m ≤ n) : millisOfDays m ≤ millisOfDays n := by
  rw [Int64.le_iff_toInt_le] at h
  exact nearestInt64_le (Int.mul_le_mul_of_nonneg_right h (by decide))

/-! ## Values -/

/-- What an integer in a column of the given type becomes. -/
def integerIn (type : Option ColumnType) (n : Int64) : Int64 :=
  match type with
  | some (.dateTime fraction) => if fraction = 0 then secondsOfMillis n else n
  | some .date => millisOfDays n
  | some .binary | some (.other _) | none => n

/-- The integers of a column keep their order, and those that are equal stay equal. -/
theorem integerIn_le (type : Option ColumnType) {m n : Int64} (h : m ≤ n) :
    integerIn type m ≤ integerIn type n := by
  -- Every conversion keeps the order, and which one is chosen depends on the type alone.
  unfold integerIn
  split
  next fraction =>
    split
    next => exact secondsOfMillis_le h
    next => exact h
  next => exact millisOfDays_le h
  next => exact h
  next => exact h
  next => exact h

namespace Value

variable {raw : LoggedValue}

/-- An integer of either width becomes an integer, by the type of its column. -/
theorem coerce_of_integer? {n : Int64} (h : raw.integer? = some n) (type : Option ColumnType) :
    coerce type raw = int (integerIn type n) := by
  cases raw with
  | int32 m | int64 m =>
    cases h
    unfold integerIn
    -- Of the types of columns only three make anything of an integer.
    split
    next => exact (apply_ite int _ _ _).symm
    next => rfl
    next => rfl
    next => rfl
    next => rfl
  | null | boolean _ | float64 _ | decimal _ | string _ | bytes _ | json _ => cases h

theorem ofTimeText_ne_int (s : String) (x : Int64) : ofTimeText s ≠ int x := by
  unfold ofTimeText
  split <;> nofun

/-- What is no integer does not become one, whatever the type of its column. -/
theorem coerce_ne_int (h : raw.integer? = none) (type : Option ColumnType) (x : Int64) :
    coerce type raw ≠ int x := by
  cases raw with
  | int32 m | int64 m => cases h
  | string s =>
    -- A text may become a point in time, and it stays a text otherwise.
    obtain _ | ⟨⟨⟩⟩ := type
    case some.dateTime => exact ofTimeText_ne_int s x
    all_goals nofun
  | null | boolean _ | float64 _ | decimal _ | bytes _ | json _ =>
    obtain _ | ⟨⟨⟩⟩ := type <;> nofun

end Value

/-! ## Rows -/

/-- The number itself if it fits in 64 bits, and the bound that is nearest otherwise. -/
structure IsNearest (n : Int) (x : Int64) : Prop where
  fits : Int64.minValue.toInt ≤ n → n ≤ Int64.maxValue.toInt → x.toInt = n
  below : n < Int64.minValue.toInt → x = Int64.minValue
  above : Int64.maxValue.toInt < n → x = Int64.maxValue

/-- The whole seconds of a time in milliseconds, which are no further from zero. -/
structure IsWhole (millis seconds : Int64) : Prop where
  rest_lt : |millis.toInt - 1000 * seconds.toInt| < 1000
  whole_le : |1000 * seconds.toInt| ≤ |millis.toInt|

/-- A number that is too great or too small becomes the bound that is next to it. -/
theorem isNearest_nearestInt64 (n : Int) : IsNearest n (nearestInt64 n) := by
  have hvalue := toInt_nearestInt64 n
  have hbounds : Int64.minValue.toInt ≤ Int64.maxValue.toInt := by decide
  refine ⟨fun hlow hhigh => ?_, fun hlow => ?_, fun hhigh => ?_⟩
  · omega
  · rw [← Int64.toInt_inj]
    omega
  · rw [← Int64.toInt_inj]
    omega

/-- The seconds are the whole part of the time, rounded towards zero. -/
theorem isWhole_secondsOfMillis (millis : Int64) : IsWhole millis (secondsOfMillis millis) := by
  obtain ⟨hrest, hwhole⟩ := tdiv_bounds millis.toInt
  rw [← toInt_secondsOfMillis] at hrest hwhole
  exact ⟨hrest, hwhole⟩

/-- **Coercion**: the row of any table, whatever the catalog knows about it, has the columns of the
raw row, and in each of them its value coerced to the type of the column. For a column of any type,
integers of both widths become the same, a larger integer does not become a smaller one, and what is
no integer does not become one. The milliseconds of a date are exact as long as they fit in 64 bits,
and otherwise the bound that is nearest; the seconds of a time are whole, rounded toward zero. -/
theorem coercion_keeps_columns_and_order (catalog : Catalog) (table : String) (raw : LoggedRow) :
    let row := raw.coerce (catalog.table? table)
    row.keys = raw.keys ∧
      (∀ column, row.get? column =
        (raw.get? column).map (Value.coerce (catalog.fieldType? table column))) ∧
      (∀ type : Option ColumnType,
        (∀ (m : Int32) (n : Int64), m.toInt = n.toInt →
          Value.coerce type (.int32 m) = Value.coerce type (.int64 n)) ∧
        (∀ (a b : LoggedValue) (m n : Int64), a.integer? = some m → b.integer? = some n → m ≤ n →
          ∃ x y, Value.coerce type a = .int x ∧ Value.coerce type b = .int y ∧ x ≤ y) ∧
        ∀ a : LoggedValue, a.integer? = none → ∀ x, Value.coerce type a ≠ .int x) ∧
      ∀ (a : LoggedValue) (n : Int64), a.integer? = some n →
        (∃ x, Value.coerce (some .date) a = .int x ∧ IsNearest (n.toInt * 86400000) x) ∧
        ∃ x, Value.coerce (some (.dateTime 0)) a = .int x ∧ IsWhole n x := by
  intro row
  refine ⟨SortedMap.keys_mapValues _ raw, fun column => ?_, fun type => ⟨?_, ?_, ?_⟩, ?_⟩
  · exact SortedMap.get?_mapValues _ raw column
  · intro m n hsame
    -- The narrow integer is widened before anything is made of it.
    obtain rfl : m.toInt64 = n := by rw [← Int64.toInt_inj, Int32.toInt_toInt64, hsame]
    have hnarrow : Value.coerce type (.int32 m) = .int (integerIn type m.toInt64) :=
      Value.coerce_of_integer? rfl type
    exact hnarrow.trans (Value.coerce_of_integer? rfl type).symm
  · intro a b m n ha hb hle
    exact ⟨integerIn type m, integerIn type n, Value.coerce_of_integer? ha type,
      Value.coerce_of_integer? hb type, integerIn_le type hle⟩
  · intro a ha x
    exact Value.coerce_ne_int ha type x
  · intro a n ha
    refine ⟨⟨millisOfDays n, Value.coerce_of_integer? ha _, isNearest_nearestInt64 _⟩, ?_⟩
    exact ⟨secondsOfMillis n, Value.coerce_of_integer? ha _, isWhole_secondsOfMillis n⟩

/-- A table with a date and a time in whole seconds. -/
def visits : Catalog :=
  .ofList [((TableLayout.ofName "visits").addField "day" .date).addField "time" (.dateTime 0)]

/-- A visit on a day that lies too far ahead, a moment before the time from which is counted. -/
def farVisit : LoggedRow :=
  .ofList [("day", .int64 Int64.maxValue), ("guest", .string "7"), ("time", .int32 (-1))]

/-- The day becomes the last integer, behind every other one, and the moment is rounded away. -/
theorem farVisit_is_coerced :
    (farVisit.coerce (visits.table? "visits")).keys = ["day", "guest", "time"] ∧
      (∃ x y, Value.coerce (some .date) (.int32 (-25567)) = .int x ∧
        (farVisit.coerce (visits.table? "visits")).get? "day" = some (.int y) ∧ x ≤ y ∧
        y = Int64.maxValue) ∧
      ∃ x, (farVisit.coerce (visits.table? "visits")).get? "time" = some (.int x) ∧
        IsWhole (-1) x := by
  -- The general result tells the order of two days, how one is saturated, and how a time is
  -- rounded.
  obtain ⟨hkeys, hvalues, htypes, hintegers⟩ :=
    coercion_keeps_columns_and_order visits "visits" farVisit
  obtain ⟨x, y, hx, hy, hle⟩ := (htypes (some .date)).2.1 (.int32 (-25567)) (.int64 Int64.maxValue)
    (-25567) Int64.maxValue rfl rfl (by decide)
  obtain ⟨⟨day, hday, hnearest⟩, -⟩ := hintegers (.int64 Int64.maxValue) Int64.maxValue rfl
  obtain ⟨-, seconds, hseconds, hwhole⟩ := hintegers (.int32 (-1)) (-1) rfl
  have hsame : y = day := Value.int.inj (hy.symm.trans hday)
  refine ⟨hkeys, ⟨x, y, hx, ?_, hle, ?_⟩, seconds, ?_, hwhole⟩
  · exact (hvalues "day").trans (congrArg some hy)
  · exact hsame.trans (hnearest.above (by decide))
  · exact (hvalues "time").trans (congrArg some hseconds)

end ChangeFeed

import ChangeFeed.Instant

/-!
# Instants: Text

The text of a point in time, as in `2023-11-14T22:13:20.500Z`. A fraction has three, six or nine
digits, as many as it needs.
-/

namespace ChangeFeed

/-- The decimal digits of a number with zeros in front, at least `width`. -/
def padded (width n : Nat) : List Char :=
  let digits := Nat.toDigits 10 n
  List.replicate (width - digits.length) '0' ++ digits

namespace Date

/-- A year of up to four digits is written with four, any other with a sign. -/
def yearText (year : Int) : List Char :=
  if 0 ≤ year ∧ year ≤ 9999 then padded 4 year.toNat
  else (if year < 0 then '-' else '+') :: padded 4 year.natAbs

def text (d : Date) : List Char :=
  yearText d.year ++ '-' :: padded 2 d.month ++ '-' :: padded 2 d.day

end Date

namespace Instant

/-- The fraction of a second, with its point; nothing for zero. -/
def fractionText (nanos : Nat) : List Char :=
  if nanos = 0 then []
  else if nanos % 1000000 = 0 then '.' :: padded 3 (nanos / 1000000)
  else if nanos % 1000 = 0 then '.' :: padded 6 (nanos / 1000)
  else '.' :: padded 9 nanos

/-- The text of a point in time. -/
def text (t : Instant) : String :=
  String.ofList <|
    t.date.text ++ 'T' :: padded 2 (t.minute / 60) ++ ':' :: padded 2 (t.minute % 60) ++
      ':' :: padded 2 t.second ++ fractionText t.nanos ++ ['Z']

end Instant

end ChangeFeed

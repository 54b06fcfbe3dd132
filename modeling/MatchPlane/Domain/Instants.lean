import MatchPlane.Domain.Text
import MatchPlane.Library.Unicode

/-!
# Instants of the web service

A `Date` counts milliseconds, and a text is an instant if it is what `toISOString` makes
of the date that `Date.parse` reads from it.
-/

namespace MatchPlane.JavaScript

open MatchPlane.Library

/-- The code units of a text of the source. -/
def units (text : String) : CodeUnits := unitsOfChars text.toList

/-- A numeral with leading zeros. -/
def numeral (width number : Nat) : CodeUnits :=
  (List.range width).map fun index =>
    UInt16.ofNat (48 + number / 10 ^ (width - 1 - index) % 10)

def millisecondsPerDay : Int := 86400000

/-- The largest number of milliseconds of a `Date`. -/
def maxTime : Int := 8640000000000000

/-- Years of other than four digits have a sign. -/
def yearText (year : Int) : CodeUnits :=
  if 0 ≤ year ∧ year ≤ 9999 then numeral 4 year.toNat
  else (if year < 0 then 45 else 43) :: numeral 6 year.natAbs

/-- `Date.prototype.toISOString`. -/
def isoText (time : Int) : CodeUnits :=
  let (year, month, day) := civilDate (time / millisecondsPerDay)
  let rest := (time % millisecondsPerDay).toNat
  yearText year ++ 45 :: (numeral 2 month.toNat ++ 45 :: (numeral 2 day.toNat ++
    84 :: (numeral 2 (rest / 3600000) ++ 58 :: (numeral 2 (rest / 60000 % 60) ++
      58 :: (numeral 2 (rest / 1000 % 60) ++ 46 :: (numeral 3 (rest % 1000) ++ [90]))))))

/-- The day that is counted from 1970-01-01. -/
def civilDay (year month day : Int) : Int :=
  let shifted := if month ≤ 2 then year - 1 else year
  let era := shifted / 400
  let yearOfEra := shifted - era * 400
  let dayOfYear := (153 * (month + if month ≤ 2 then 9 else -3) + 2) / 5 + day - 1
  era * 146097 + yearOfEra * 365 + yearOfEra / 4 - yearOfEra / 100 + dayOfYear - 719468

/-- The number that the units of a part of a text are the digits of. -/
def digitsAt (start width : Nat) (text : CodeUnits) : Int :=
  ((text.drop start).take width).foldl (fun number unit => number * 10 + (unit.toNat - 48 : Int)) 0

/-- `Date.parse` of a text that `toISOString` can have made. -/
def timeOfIso (text : CodeUnits) : Int :=
  let signed : Bool := text.head?.any fun unit => unit = 43 ∨ unit = 45
  let year := if signed then digitsAt 1 6 text * (if text.head? = some 45 then -1 else 1)
    else digitsAt 0 4 text
  let rest := text.drop (if signed then 7 else 4)
  civilDay year (digitsAt 1 2 rest) (digitsAt 4 2 rest) * millisecondsPerDay +
    digitsAt 7 2 rest * 3600000 + digitsAt 10 2 rest * 60000 + digitsAt 13 2 rest * 1000 +
      digitsAt 16 3 rest

def isIsoInstant (text : CodeUnits) : Bool :=
  let time := timeOfIso text
  time ≤ maxTime ∧ -maxTime ≤ time ∧ isoText time = text

example : isIsoInstant (units "2024-02-29T23:59:59.999Z") ∧
    ¬isIsoInstant (units "2023-02-29T00:00:00.000Z") ∧
    ¬isIsoInstant (units "2024-02-29T23:59:59Z") ∧
    isIsoInstant (units "-000001-12-31T00:00:00.000Z") := by decide +kernel

end MatchPlane.JavaScript

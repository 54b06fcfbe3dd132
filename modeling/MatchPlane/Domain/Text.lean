import MatchPlane.Domain.Matching
import MatchPlane.Payments.Money

/-!
# Texts of dates and identifiers
-/

namespace MatchPlane

/-- The parser of identifiers of the third-party crate; it reads several notations. -/
class UuidParser where
  parseStr : String → Option Uuid

def nanosecondsPerDay : Int := 86400000000000

/-- The year, month and day of a day that is counted from 1970-01-01.

Years are counted from March in eras of 400 years, so that a leap day comes last. -/
def civilDate (days : Int) : Int × Int × Int :=
  let shifted := days + 719468
  let era := shifted / 146097
  let dayOfEra := shifted - era * 146097
  let yearOfEra := (dayOfEra - dayOfEra / 1460 + dayOfEra / 36524 - dayOfEra / 146096) / 365
  let dayOfYear := dayOfEra - (365 * yearOfEra + yearOfEra / 4 - yearOfEra / 100)
  let month := (5 * dayOfYear + 2) / 153
  let day := dayOfYear - (153 * month + 2) / 5 + 1
  if month < 10 then (yearOfEra + era * 400, month + 3, day)
  else (yearOfEra + era * 400 + 1, month - 9, day)

/-- `Display` of the date of a time. -/
def dateText (time : OffsetDateTime) : String :=
  let (year, month, day) := civilDate (time / nanosecondsPerDay)
  Money.zeroPadded 4 year ++ "-" ++ Money.zeroPadded 2 month ++ "-" ++ Money.zeroPadded 2 day

example : dateText 0 = "1970-01-01" ∧ dateText (-1) = "1969-12-31" ∧
    dateText (951782400 * 1000000000) = "2000-02-29" := by decide +kernel

end MatchPlane

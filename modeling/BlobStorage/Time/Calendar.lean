/-!
The proleptic Gregorian calendar: days since 1 January 1970 and year, month and day. Years are
counted from March, so that the leap day is the last day of a year.
-/
namespace BlobStorage.Time.Calendar

structure Date where
  year : Int
  month : Nat
  day : Nat
  deriving DecidableEq, Repr

/-- Days from the start of a March year to the first day of its month, March being month 0. -/
def daysBeforeMonth (month : Nat) : Nat :=
  (153 * month + 2) / 5

def toDays (d : Date) : Int :=
  let year := if d.month ≤ 2 then d.year - 1 else d.year
  let month := (d.month + 9) % 12
  365 * year + year.fdiv 4 - year.fdiv 100 + year.fdiv 400
    + Int.ofNat (daysBeforeMonth month) + Int.ofNat d.day - 719469

/-- The date of a day. An era is 400 years, after which the calendar repeats. -/
def ofDays (days : Int) : Date :=
  let shifted := days + 719468
  let era := shifted.fdiv 146097
  let dayOfEra := (shifted - era * 146097).toNat
  let yearOfEra := (dayOfEra - dayOfEra / 1460 + dayOfEra / 36524 - dayOfEra / 146096) / 365
  let dayOfYear := dayOfEra - (365 * yearOfEra + yearOfEra / 4 - yearOfEra / 100)
  let shiftedMonth := (5 * dayOfYear + 2) / 153
  let month := if shiftedMonth < 10 then shiftedMonth + 3 else shiftedMonth - 9
  let year := Int.ofNat yearOfEra + era * 400
  ⟨if month ≤ 2 then year + 1 else year, month, dayOfYear - daysBeforeMonth shiftedMonth + 1⟩

end BlobStorage.Time.Calendar

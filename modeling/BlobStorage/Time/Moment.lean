import BlobStorage.Number.Binary64
import BlobStorage.Time.Calendar

/-!
Moments: a wall-clock reading in microseconds with an optional offset from universal time. A
reading without an offset is taken as universal time wherever moments are compared. Durations are
whole microseconds.
-/
namespace BlobStorage

def Time.padded (width n : Nat) : List Char :=
  let digits := Nat.toDigits 10 n
  List.replicate (width - digits.length) '0' ++ digits

open Time (padded)

structure Duration where
  micros : Int
  deriving DecidableEq, Repr

namespace Duration

def isNegative (d : Duration) : Bool := d.micros < 0

def isPositive (d : Duration) : Bool := 0 < d.micros

/-- The days of the duration; what is left is not negative and less than a day. -/
def days (d : Duration) : Int := d.micros.fdiv 86400000000

def inRange (d : Duration) : Bool := d.days.natAbs ≤ 999999999

def seconds (d : Duration) : Binary64 :=
  Binary64.nearest (d.micros < 0) d.micros.natAbs 1000000

def wholeSeconds (d : Duration) : Int :=
  match d.seconds with
  | .finite negative m e =>
      let (num, den) := Binary64.magnitude m e
      let n := Int.ofNat (num / den)
      if negative then -n else n
  | _ => 0

/-- The days, if there are any, and the hours, minutes and seconds beyond them. -/
def text (d : Duration) : String :=
  let micros := (d.micros - d.days * 86400000000).toNat
  let seconds := micros / 1000000
  let unit := if d.days.natAbs = 1 then " day, " else " days, "
  (if d.days = 0 then "" else toString d.days ++ unit)
    ++ String.ofList (
      Nat.toDigits 10 (seconds / 3600) ++ ':' :: padded 2 (seconds / 60 % 60)
        ++ ':' :: padded 2 (seconds % 60)
        ++ (if micros % 1000000 = 0 then [] else '.' :: padded 6 (micros % 1000000)))

end Duration

/-- A wall-clock reading, in microseconds since the start of 1970, and the offset of that clock
from universal time in seconds, if it is known. -/
structure Moment where
  clock : Int
  offset : Option Int
  deriving DecidableEq, Repr

namespace Moment

def microsPerDay : Int := 86400000000

def universal (m : Moment) : Int :=
  m.clock - m.offset.getD 0 * 1000000

def inRange (m : Moment) : Bool :=
  -62135596800000000 ≤ m.clock && m.clock < 253402300800000000

/-- The moment a duration later on the same clock, unless it leaves the calendar. -/
def add? (m : Moment) (d : Duration) : Option Moment :=
  let later := { m with clock := m.clock + d.micros }
  if later.inRange then some later else none

/-- Seconds since the start of 1970 in universal time, cut to a whole number. A reading without an
offset has none on the first day of the calendar, since the offset it may have had is looked for
on the day before. -/
def timestamp? (m : Moment) : Option Int :=
  if m.offset.isNone && m.clock < -62135596800000000 + microsPerDay then none
  else some (Duration.wholeSeconds ⟨m.universal⟩)

def offsetText (seconds : Int) : List Char :=
  let n := seconds.natAbs
  (if seconds < 0 then '-' else '+') :: padded 2 (n / 3600) ++ ':' :: padded 2 (n / 60 % 60)
    ++ (if n % 60 = 0 then [] else ':' :: padded 2 (n % 60))

/-- Date, a mark, time of day, microseconds unless they are zero, and the offset. -/
def textWith (mark : Char) (m : Moment) : String :=
  let days := m.clock.fdiv microsPerDay
  let date := Time.Calendar.ofDays days
  let micros := (m.clock - days * microsPerDay).toNat
  let seconds := micros / 1000000
  String.ofList <|
    padded 4 date.year.toNat ++ '-' :: padded 2 date.month ++ '-' :: padded 2 date.day
      ++ mark :: padded 2 (seconds / 3600) ++ ':' :: padded 2 (seconds / 60 % 60)
      ++ ':' :: padded 2 (seconds % 60)
      ++ (if micros % 1000000 = 0 then [] else '.' :: padded 6 (micros % 1000000))
      ++ (match m.offset with | none => [] | some o => offsetText o)

def text (m : Moment) : String := m.textWith 'T'

/-- The number that leads a text, if it has exactly `width` plain digits, and what follows. -/
def number? (width : Nat) (text : List Char) : Option (Nat × List Char) :=
  let digits := text.take width
  if digits.length = width ∧ digits.all Char.isDigit then
    some (digits.foldl (fun n c => 10 * n + (c.toNat - 48)) 0, text.drop width)
  else none

def mark? (mark : Char) : List Char → Option (List Char)
  | c :: rest => if c = mark then some rest else none
  | [] => none

/-- The fraction of a second in microseconds; digits beyond the sixth do not count. -/
def fraction (text : List Char) : Nat × List Char :=
  match text with
  | '.' :: rest =>
      let digits := rest.takeWhile Char.isDigit
      let kept := (digits.take 6) ++ List.replicate (6 - digits.length) '0'
      (kept.foldl (fun n c => 10 * n + (c.toNat - 48)) 0, rest.drop digits.length)
  | _ => (0, text)

def offset? : List Char → Option (Option Int)
  | [] => some none
  | ['Z'] => some (some 0)
  | c :: rest =>
      if c = '+' ∨ c = '-' then do
        let (hours, rest) ← number? 2 rest
        let rest ← mark? ':' rest
        let (minutes, rest) ← number? 2 rest
        let seconds ← match rest with
          | [] => some 0
          | _ => do
              let rest ← mark? ':' rest
              let (seconds, rest) ← number? 2 rest
              if rest.isEmpty then some seconds else none
        let n := Int.ofNat (3600 * hours + 60 * minutes + seconds)
        some (some (if c = '-' then -n else n))
      else none

/-- Reads the form that `text` writes; the time of day may be missing. -/
def ofText? (text : String) : Option Moment := do
  let (year, rest) ← number? 4 text.toList
  let rest ← mark? '-' rest
  let (month, rest) ← number? 2 rest
  let rest ← mark? '-' rest
  let (day, rest) ← number? 2 rest
  let days := Time.Calendar.toDays ⟨Int.ofNat year, month, day⟩
  if rest.isEmpty then return ⟨days * microsPerDay, none⟩
  let rest := rest.drop 1
  let (hours, rest) ← number? 2 rest
  let rest ← mark? ':' rest
  let (minutes, rest) ← number? 2 rest
  let (seconds, rest) ← match mark? ':' rest with
    | some rest => number? 2 rest
    | none => some (0, rest)
  let (micros, rest) := fraction rest
  let offset ← offset? rest
  let time := Int.ofNat (1000000 * (3600 * hours + 60 * minutes + seconds) + micros)
  return ⟨days * microsPerDay + time, offset⟩

end Moment
end BlobStorage

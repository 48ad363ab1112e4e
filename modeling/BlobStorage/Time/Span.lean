import BlobStorage.Content
import BlobStorage.Number.Numeral
import BlobStorage.Time.Moment

/-!
Spans of time as they are given: a number of seconds, or a text. A text names units in the manner of
`P1DT2H`, or counts days before a clock reading in the manner of `1 day, 02:00:00`; days and clock
may each stand alone. A span has a sign and is kept as days, seconds of a day and microseconds.
-/
namespace BlobStorage.Time

inductive SpanFault where
  | short
  | surplus
  | notNumber
  | digit
  | dayWord
  | repeatedTime
  | fraction
  | dateUnit
  | timeUnit
  | hourDigit
  | minuteDigit
  | secondDigit
  | separator
  | minuteRange
  | secondRange
  | fractionMissing
  | valueRange
  | hourRange
  | dayRange
  deriving DecidableEq, Repr

def SpanFault.text : SpanFault → String
  | short => "input is too short"
  | surplus => "unexpected extra characters at the end of the input"
  | notNumber => "NaN values not permitted"
  | digit => "invalid digit in duration"
  | dayWord => "\"day\" identifier in duration not correctly formatted"
  | repeatedTime => "`t` character repeated in duration"
  | fraction => "quantity fraction invalid in duration"
  | dateUnit => "quantity invalid in date part of duration"
  | timeUnit => "quantity invalid in time part of duration"
  | hourDigit => "invalid character in hour"
  | minuteDigit => "invalid character in minute"
  | secondDigit => "invalid character in second"
  | separator => "invalid time separator, expected `:`"
  | minuteRange => "minute value is outside expected range of 0-59"
  | secondRange => "second value is outside expected range of 0-59"
  | fractionMissing => "second fraction value is missing"
  | valueRange => "a numeric value in the duration is too large"
  | hourRange => "durations may not exceed 999,999,999 hours"
  | dayRange => "durations may not exceed 999,999,999 days"

structure Span where
  negative : Bool := false
  days : Nat := 0
  seconds : Nat := 0
  micros : Nat := 0
  deriving DecidableEq, Repr

namespace Span

def secondsPerDay : Nat := 86400

def microsPerSecond : Nat := 1000000

/-- Counts are kept in words of 32 bits. -/
def counted (n : Nat) : Except SpanFault Nat :=
  if n < Nat.pow 2 32 then .ok n else .error .valueRange

/-- The span with its surplus of microseconds and seconds carried over. -/
def normalized (s : Span) : Except SpanFault Span := do
  let seconds ← counted (s.seconds + s.micros / microsPerSecond)
  let days ← counted (s.days + seconds / secondsPerDay)
  if 999999999 < days then throw .dayRange
  return { s with days, seconds := seconds % secondsPerDay, micros := s.micros % microsPerSecond }

def toDuration (s : Span) : Duration :=
  let micros := Int.ofNat ((s.days * secondsPerDay + s.seconds) * microsPerSecond + s.micros)
  ⟨if s.negative then -micros else micros⟩

/-- So many seconds. The count of days wraps around with its word. -/
def ofWhole (n : Int) : Except SpanFault Span :=
  normalized {
    negative := n < 0
    days := n.natAbs / secondsPerDay % Nat.pow 2 32
    seconds := n.natAbs % secondsPerDay }

def ofReal (x : Binary64) : Except SpanFault Span :=
  match x with
  | .nan => .error .notNumber
  | .infinite _ => .error .dayRange
  | x =>
      normalized {
        negative := x.isNegative
        days := min (x.scaled 1 secondsPerDay).cut (Nat.pow 2 32 - 1)
        seconds := x.cut % secondsPerDay
        micros := (x.beyondCut.scaled microsPerSecond 1).roundHalfUp }

/-! Texts -/

def number (text : List Char) : Except SpanFault (Nat × List Char) := do
  let digits := text.takeWhile Char.isDigit
  if digits.isEmpty then throw .digit
  let n ← counted (Number.Numeral.spelled (digits.map fun c => c.toNat - 48))
  return (n, text.dropWhile Char.isDigit)

def fraction? : List Char → Option Binary64 × List Char
  | c :: rest =>
      if c = '.' ∨ c = ',' then
        let digits := rest.takeWhile Char.isDigit
        let n := Number.Numeral.spelled (digits.map fun c => c.toNat - 48)
        (some (.nearest false n (Nat.pow 10 digits.length)), rest.dropWhile Char.isDigit)
      else (none, c :: rest)
  | [] => (none, [])

def dateUnit? : Char → Option Nat
  | 'Y' => some 365
  | 'M' => some 30
  | 'W' => some 7
  | 'D' => some 1
  | _ => none

def timeUnit? : Char → Option Nat
  | 'H' => some 3600
  | 'M' => some 60
  | 'S' => some 1
  | _ => none

def addSeconds (s : Span) (seconds : Nat) (part : Binary64) : Except SpanFault Span := do
  return { s with
    seconds := ← counted (s.seconds + seconds + part.cut)
    micros := s.micros + (part.beyondCut.scaled microsPerSecond 1).roundHalfUp }

def addUnit (s : Span) (inTime : Bool) (amount unit : Nat) (part : Option Binary64) :
    Except SpanFault Span := do
  let whole ← counted (amount * unit)
  let part := (part.getD (.ofInt 0)).scaled unit 1
  if inTime then addSeconds s whole part
  else
    let days ← counted (s.days + whole + part.cut)
    addSeconds { s with days } 0 (part.beyondCut.scaled secondsPerDay 1)

/-- Amounts with their units, those of the time of day after a `T`. Only the last amount may have a
fraction. -/
def units (fuel : Nat) (inTime fractional : Bool) (s : Span) (text : List Char) :
    Except SpanFault Span :=
  match fuel, text with
  | 0, _ | _, [] => .ok s
  | fuel + 1, 'T' :: rest =>
      if inTime then .error .repeatedTime else units fuel true fractional s rest
  | fuel + 1, text => do
      let (amount, rest) ← number text
      if fractional then throw .fraction
      let (part, rest) := fraction? rest
      match rest, inTime with
      | [], true => throw .timeUnit
      | [], false => throw .dateUnit
      | c :: rest, inTime =>
          match if inTime then timeUnit? c else dateUnit? c with
          | none => throw (if inTime then .timeUnit else .dateUnit)
          | some unit => units fuel inTime part.isSome (← s.addUnit inTime amount unit part) rest

def twoDigits (fault : SpanFault) : List Char → Except SpanFault (Nat × List Char)
  | a :: b :: rest =>
      if a.isDigit && b.isDigit then .ok (10 * (a.toNat - 48) + (b.toNat - 48), rest)
      else .error fault
  | [a] => .error (if a.isDigit then .short else fault)
  | [] => .error .short

def microsOf (text : List Char) : Except SpanFault Nat :=
  let digits := text.takeWhile Char.isDigit
  if digits.isEmpty then .error .fractionMissing
  else if digits.length < text.length then .error .surplus
  else
    .ok (Number.Numeral.spelled (digits.map fun c => c.toNat - 48) *
      Nat.pow 10 (6 - digits.length))

def secondsOf : List Char → Except SpanFault (Nat × Nat)
  | [] => .ok (0, 0)
  | ':' :: text => do
      let (seconds, rest) ← twoDigits .secondDigit text
      if 59 < seconds then throw .secondRange
      match rest with
      | [] => return (seconds, 0)
      | c :: rest =>
          if c = '.' ∨ c = ',' then return (seconds, ← microsOf rest) else throw .surplus
  | _ => .error .surplus

/-- A clock reading. It may have any number of hours; what goes beyond microseconds is not read. -/
def clock (text : List Char) : Except SpanFault Span := do
  if text.length < 5 then throw .short
  let (hours, rest) := text.span (· ≠ ':')
  if rest.isEmpty || !hours.all Char.isDigit then throw .hourDigit
  let hours := Number.Numeral.spelled (hours.map fun c => c.toNat - 48)
  if 2400000000 < hours then throw .hourRange
  let rest := (rest.drop 1).take 12
  if rest.length < 2 then throw .short
  let (minutes, rest) ← twoDigits .minuteDigit rest
  if 59 < minutes then throw .minuteRange
  let (seconds, micros) ← secondsOf rest
  return { days := hours / 24, seconds := hours % 24 * 3600 + 60 * minutes + seconds, micros }

def dropLetter? (letter : Char) : List Char → Option (List Char)
  | c :: rest => if c.toLower = letter then some rest else none
  | [] => none

def dropMark (mark : Char) (text : List Char) : List Char :=
  if text.head? = some mark then text.drop 1 else text

/-- The word for days: one letter, or more of the word. -/
def dayWord (text : List Char) : Except SpanFault (List Char) :=
  match dropLetter? 'd' (dropMark ' ' text) with
  | none => .error .dayWord
  | some rest =>
      match dropLetter? 'a' rest with
      | none => .ok rest
      | some rest =>
          match dropLetter? 'y' rest with
          | none => .error .dayWord
          | some rest => .ok ((dropLetter? 's' rest).getD rest)

def daysAndClock (text : List Char) : Except SpanFault Span := do
  if text.isEmpty then throw .short
  let (days, rest) ← number text
  let rest := dropMark ' ' (dropMark ',' (← dayWord rest))
  if rest.isEmpty then return { days }
  let time ← clock rest
  return { time with days := ← counted (time.days + days) }

def bytesOf (text : String) : List Char :=
  (Content.ofText text).map fun b => Char.ofNat b.toNat

def ofText (text : String) : Except SpanFault Span := do
  let bytes := bytesOf text
  let (negative, rest) := Number.Numeral.sign bytes
  if bytes.isEmpty then throw .short
  let span ← match rest with
    | 'P' :: amounts => do
        let span ← units (amounts.length + 1) false false {} amounts
        if bytes.length < 3 then throw .short
        pure span
    | rest =>
        if bytes.any (fun c => c = 'd' || c = 'D') || bytes.length < 5 then daysAndClock rest
        else clock rest
  normalized { span with negative }

end Span
end BlobStorage.Time

import MockApi.Calendar.Date
import MockApi.Text.Bytes

/-!
Instants of universal time, read from timestamps such as `2024-01-01T00:00:00.5+01:00`. A leap
second is the second before it with a whole second of nanoseconds more.
-/
namespace MockApi

/-- Seconds since the first of January 1970, and nanoseconds behind them. -/
structure Instant where
  seconds : Int
  nanos : Nat
  deriving DecidableEq, Repr

namespace Instant

def secondsPerDay : Nat := 86400

def epochDay : Int := 719162

def before (a b : Instant) : Bool :=
  decide (a.seconds < b.seconds ∨ (a.seconds = b.seconds ∧ a.nanos < b.nanos))

def date (t : Instant) : Date := Date.ofDayNumber (t.seconds / secondsPerDay + epochDay)

def secondOfDay (t : Instant) : Nat := (t.seconds % secondsPerDay).toNat

def clock (seconds : Nat) : List Char :=
  Text.padded 2 (seconds / 3600) ++ ':' :: Text.padded 2 (seconds / 60 % 60) ++ [':']

/-- The form `YYYY-MM-DDTHH:MM:SSZ`, which leaves out fractions. -/
def renderChars (t : Instant) : List Char :=
  t.date.renderChars ++ 'T' :: clock t.secondOfDay ++ Text.padded 2 (t.secondOfDay % 60) ++ ['Z']

def render (t : Instant) : String := String.ofList t.renderChars

/-- A fraction with three, six or nine digits, as few as keep it exact. -/
def fraction (nanos : Nat) : List Char :=
  if nanos = 0 then []
  else if nanos % 1000000 = 0 then '.' :: Text.padded 3 (nanos / 1000000)
  else if nanos % 1000 = 0 then '.' :: Text.padded 6 (nanos / 1000)
  else '.' :: Text.padded 9 nanos

/-- The form `YYYY-MM-DD HH:MM:SS UTC` with the fraction; a leap second is second 60. -/
def describe (t : Instant) : String :=
  let leapSecond := t.nanos / 1000000000
  String.ofList (t.date.renderChars ++ ' ' :: clock t.secondOfDay ++
    Text.padded 2 (t.secondOfDay % 60 + leapSecond) ++ fraction (t.nanos % 1000000000)) ++ " UTC"

/-! ## Reading -/

def digit : List Char → Except TimeFault (Nat × List Char)
  | c :: rest => if Text.isDigit c then .ok (Text.digitValue c, rest) else .error .invalid
  | [] => .error .invalid

def twoDigits (text : List Char) : Except TimeFault (Nat × List Char) := do
  let (a, rest) ← digit text
  let (b, rest) ← digit rest
  return (10 * a + b, rest)

def fourDigits (text : List Char) : Except TimeFault (Nat × List Char) := do
  let (a, rest) ← twoDigits text
  let (b, rest) ← twoDigits rest
  return (100 * a + b, rest)

def mark (allowed : List Char) : List Char → Except TimeFault (List Char)
  | c :: rest => if c ∈ allowed then .ok rest else .error .invalid
  | [] => .error .invalid

/-- The nanoseconds of a fraction, if one follows; digits after the ninth are dropped. -/
def readFraction : List Char → Except TimeFault (Nat × List Char)
  | '.' :: rest =>
      let digits := rest.takeWhile Text.isDigit
      let kept := digits.take 9
      match digits, rest with
      | [], [] => .error .tooShort
      | [], _ => .error .invalid
      | _, _ => .ok (Text.digitsValue kept * 10 ^ (9 - kept.length), rest.drop digits.length)
  | rest => .ok (0, rest)

/-- Two digits of an offset, the first of which is below `limit` tens. -/
def offsetPart (tens : Nat) (text : List Char) : Except TimeFault (Nat × List Char) :=
  if Text.byteCount text < 2 then .error .tooShort
  else match text with
    | a :: b :: rest =>
        if Text.isDigit a && Text.isDigit b then
          if Text.digitValue a < tens then .ok (10 * Text.digitValue a + Text.digitValue b, rest)
          else .error .outOfRange
        else .error .invalid
    | _ => .error .invalid

def readOffset (text : List Char) : Except TimeFault (Int × List Char) :=
  let signed (sign : Int) (rest : List Char) : Except TimeFault (Int × List Char) := do
    let (hours, rest) ← offsetPart 10 rest
    let rest ← Date.expect ':' rest
    let (minutes, rest) ← offsetPart 6 rest
    return (sign * (3600 * hours + 60 * minutes), rest)
  match text with
  | 'Z' :: rest | 'z' :: rest => .ok (0, rest)
  | '+' :: rest => signed 1 rest
  | '-' :: rest | '−' :: rest => signed (-1) rest
  | [] => .error .tooShort
  | _ => .error .invalid

def leastLength : Nat := 19

def parseChars (text : List Char) : Except TimeFault Instant := do
  if Text.byteCount text < leastLength then throw .tooShort
  let (year, rest) ← fourDigits text
  let rest ← mark ['-'] rest
  let (month, rest) ← twoDigits rest
  let rest ← mark ['-'] rest
  let (day, rest) ← twoDigits rest
  let date : Date := ⟨year, month, day⟩
  if ¬ date.Valid then throw .outOfRange
  let rest ← mark ['t', 'T', ' '] rest
  let (hour, rest) ← twoDigits rest
  let rest ← mark [':'] rest
  let (minute, rest) ← twoDigits rest
  let rest ← mark [':'] rest
  let (second, rest) ← twoDigits rest
  let (nanos, rest) ← readFraction rest
  let leapSecond := second = 60
  let second := if leapSecond then 59 else second
  if hour ≥ 24 ∨ minute ≥ 60 ∨ second ≥ 60 then throw .outOfRange
  let (offset, rest) ← readOffset rest
  if rest ≠ [] then throw .tooLong
  if offset.natAbs ≥ secondsPerDay then throw .outOfRange
  let days := date.dayNumber - epochDay
  let east : Int := days * secondsPerDay + 3600 * hour + 60 * minute + second
  return ⟨east - offset, if leapSecond then nanos + 1000000000 else nanos⟩

def parse (text : String) : Except TimeFault Instant := parseChars text.toList

end Instant
end MockApi

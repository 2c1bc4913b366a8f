import MockApi.Text.Blank
import MockApi.Text.Digits

/-!
Dates of the Gregorian calendar, extended to all years, with their day numbers and the form
`YYYY-MM-DD`.
-/
namespace MockApi

inductive TimeFault where
  | tooShort | invalid | outOfRange | tooLong
  deriving DecidableEq, Repr

def TimeFault.message : TimeFault → String
  | tooShort => "premature end of input"
  | invalid => "input contains invalid characters"
  | outOfRange => "input is out of range"
  | tooLong => "trailing input"

structure Date where
  year : Int
  month : Nat
  day : Nat
  deriving DecidableEq, Repr

namespace Date

def leap (year : Int) : Bool := year % 4 == 0 && (year % 100 != 0 || year % 400 == 0)

def monthLengths (year : Int) : List Nat :=
  [31, if leap year then 29 else 28, 31, 30, 31, 30, 31, 31, 30, 31, 30, 31]

def monthLength? (year : Int) (month : Nat) : Option Nat :=
  if month = 0 then none else (monthLengths year)[month - 1]?

def leastYear : Int := -262143

def greatestYear : Int := 262142

/-- The date exists and its year is supported. -/
def Valid (d : Date) : Prop :=
  leastYear ≤ d.year ∧ d.year ≤ greatestYear ∧ 1 ≤ d.day ∧
    d.day ≤ (monthLength? d.year d.month).getD 0

instance (d : Date) : Decidable d.Valid := by
  unfold Valid
  infer_instance

def daysBeforeYear (year : Int) : Int :=
  365 * (year - 1) + (year - 1) / 4 - (year - 1) / 100 + (year - 1) / 400

def daysBeforeMonth (year : Int) (month : Nat) : Nat :=
  ((monthLengths year).take (month - 1)).foldr (· + ·) 0

def dayNumber (d : Date) : Int :=
  daysBeforeYear d.year + daysBeforeMonth d.year d.month + d.day - 1

/-- The year of a day: an estimate by the mean length of a year, put right by one. -/
def yearOfDay (n : Int) : Int :=
  let guess := n * 400 / 146097 + 1
  if n < daysBeforeYear guess then guess - 1
  else if daysBeforeYear (guess + 1) ≤ n then guess + 1
  else guess

/-- The month and day that the `n`-th day (from zero) of the months from `month` on falls on. -/
def monthAndDay (month n : Nat) : List Nat → Nat × Nat
  | [] => (month, n + 1)
  | length :: rest => if n < length then (month, n + 1) else monthAndDay (month + 1) (n - length) rest

def ofDayNumber (n : Int) : Date :=
  let year := yearOfDay n
  let place := monthAndDay 1 (n - daysBeforeYear year).toNat (monthLengths year)
  ⟨year, place.1, place.2⟩

def before (a b : Date) : Bool := decide (a.dayNumber < b.dayNumber)

/-- Four digits for the years from 0 to 9999; a sign and at least four digits for the others. -/
def renderYear (year : Int) : List Char :=
  if year < 0 then '-' :: Text.padded 4 year.natAbs
  else if 9999 < year then '+' :: Text.padded 4 year.natAbs
  else Text.padded 4 year.natAbs

def renderChars (d : Date) : List Char :=
  renderYear d.year ++ '-' :: Text.padded 2 d.month ++ '-' :: Text.padded 2 d.day

def render (d : Date) : String := String.ofList d.renderChars

/-! ## Reading -/

def numberLimit : Nat := 2 ^ 63

/-- Between one and `width` digits, any number of them without a width. -/
def readNumber (width : Option Nat) (text : List Char) : Except TimeFault (Nat × List Char) :=
  let run := text.takeWhile Text.isDigit
  let digits := match width with
    | some w => run.take w
    | none => run
  match digits, text with
  | [], [] => .error .tooShort
  | [], _ => .error .invalid
  | _, _ =>
      if numberLimit ≤ Text.digitsValue digits then .error .outOfRange
      else .ok (Text.digitsValue digits, text.drop digits.length)

def readYear (text : List Char) : Except TimeFault (Int × List Char) := do
  let (year, rest) ← match text with
    | '-' :: rest => do
        let (n, rest) ← readNumber none rest
        pure (-(n : Int), rest)
    | '+' :: rest => do
        let (n, rest) ← readNumber none rest
        pure ((n : Int), rest)
    | _ => do
        let (n, rest) ← readNumber (some 4) text
        pure ((n : Int), rest)
  if -2 ^ 31 ≤ year ∧ year < 2 ^ 31 then .ok (year, rest) else .error .outOfRange

/-- One or two digits with a value from one to `greatest`. -/
def readPart (greatest : Nat) (text : List Char) : Except TimeFault (Nat × List Char) := do
  let (n, rest) ← readNumber (some 2) text
  if 1 ≤ n ∧ n ≤ greatest then .ok (n, rest) else .error .outOfRange

def expect (c : Char) : List Char → Except TimeFault (List Char)
  | [] => .error .tooShort
  | other :: rest => if other = c then .ok rest else .error .invalid

/-- Reads year, month and day between dashes, each after optional white space. That the date
exists is looked at last. -/
def parseChars (text : List Char) : Except TimeFault Date := do
  let (year, rest) ← readYear (Text.trimLeft text)
  let rest ← expect '-' rest
  let (month, rest) ← readPart 12 (Text.trimLeft rest)
  let rest ← expect '-' rest
  let (day, rest) ← readPart 31 (Text.trimLeft rest)
  let date : Date := ⟨year, month, day⟩
  if rest ≠ [] then .error .tooLong
  else if date.Valid then .ok date
  else .error .outOfRange

def parse (text : String) : Except TimeFault Date := parseChars text.toList

end Date
end MockApi
